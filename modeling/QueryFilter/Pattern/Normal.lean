import QueryFilter.Pattern.Regex

/-!
# Expressions in normal form

Ways to put regular expressions together that keep them small: `Regex.ofSet`, `Regex.sequence`,
`Regex.alternatives` and `Regex.repeated`.  Literals side by side become one, nested sequences
and alternations become flat, alternatives of single characters become a set of characters, and
what all alternatives begin with is taken out of them.
-/

namespace QueryFilter.Regex

/-! ### Lengths -/

/-- The least number of characters in a text that the expression matches; nothing if no text is
found to match. -/
def minLength? : Regex → Option Nat
  | .empty => some 0
  | .literal t => some t.length
  | .chars set => if set.isEmpty then none else some 1
  | .assertion _ _ => some 0
  | .group body => body.minLength?
  | .times body least _ => body.minLength?.map (· * least)
  | .seq first rest => first.minLength?.bind fun m => rest.minLength?.map (m + ·)
  | .alt first rest => first.minLength?.bind fun m => rest.minLength?.map (min m ·)

/-- The expression consumes no characters. -/
def isWidthless : Regex → Bool
  | .empty => true
  | .literal t => t.isEmpty
  | .chars _ => false
  | .assertion _ _ => true
  | .group body => body.isWidthless
  | .times body _ most => most.isSome && body.isWidthless
  | .seq first rest => first.isWidthless && rest.isWidthless
  | .alt first rest => first.isWidthless && rest.isWidthless

/-- The expression consumes at least one character. -/
def isWide (r : Regex) : Bool := r.minLength?.any (0 < ·)

/-! ### Sets and repetitions -/

/-- The expression for one character of a set. -/
def ofSet (set : CharSet) : Regex :=
  match set.char? with
  | some c => .literal [c]
  | none => .chars set

/-- The expression repeated at least and at most so many times. One turn is enough for what
consumes no characters. -/
def repeated (body : Regex) (least : Nat) (most : Option Nat) : Regex :=
  let least := if body.isWidthless then min least 1 else least
  let most := if body.isWidthless then some (min (most.getD 1) 1) else most
  if most = some 0 then .empty
  else if least = 1 ∧ most = some 1 then body
  else .times body least most

/-! ### Sequences -/

/-- The parts of a sequence, or the expression itself as the only part. -/
def parts : Regex → List Regex
  | .empty => []
  | .seq first rest => first :: rest.parts
  | r => [r]

/-- A part before a sequence. -/
def before : Regex → Regex → Regex
  | .literal s, .literal t => .literal (s ++ t)
  | .literal s, .seq (.literal t) rest => .seq (.literal (s ++ t)) rest
  | r, .empty => r
  | r, rest => .seq r rest

/-- The expressions one after the other. -/
def sequence (rs : List Regex) : Regex := (rs.flatMap parts).foldr before .empty

/-! ### Alternatives -/

/-- The alternatives of an alternation, or the expression itself as the only one. -/
def branches : Regex → List Regex
  | .alt first rest => first :: rest.branches
  | r => [r]

/-- The expressions are equal and hold no group; two groups are different even if they look
alike. -/
def sameAs : Regex → Regex → Bool
  | .empty, .empty => true
  | .literal s, .literal t => s == t
  | .chars s, .chars t => s == t
  | .assertion a v, .assertion b w => a == b && v == w
  | .times r least most, .times s least' most' => least == least' && most == most' && sameAs r s
  | .seq r rs, .seq s ss => sameAs r s && sameAs rs ss
  | .alt r rs, .alt s ss => sameAs r s && sameAs rs ss
  | _, _ => false

/-- The parts that two sequences begin with. -/
def commonParts : List Regex → List Regex → List Regex
  | r :: rs, s :: ss => if sameAs r s then r :: commonParts rs ss else []
  | _, _ => []

/-- The parts that all alternatives begin with, each of which is a sequence of several parts. -/
def sharedParts : List Regex → List Regex
  | [] => []
  | r :: rs =>
    if (r :: rs).all fun s => 2 ≤ s.parts.length then
      rs.foldl (fun shared s => commonParts shared s.parts) r.parts
    else []

/-- The number of nodes of an expression. -/
def size : Regex → Nat
  | .group body => body.size + 1
  | .times body _ _ => body.size + 1
  | .seq first rest => first.size + rest.size + 1
  | .alt first rest => first.size + rest.size + 1
  | _ => 1

/-- The character of a literal that has just one, as a set. -/
def singleChar? : Regex → Option CharSet
  | .literal [c] => some (CharSet.single c)
  | _ => none

/-- The set of an expression for one character of a set. -/
def set? : Regex → Option CharSet
  | .chars set => some set
  | _ => none

/-- The alternation of some expressions, the last one ending it. -/
def alternation : List Regex → Regex
  | [] => .chars CharSet.empty
  | [r] => r
  | r :: rs => .alt r (alternation rs)

/-- The alternation of some expressions, where what they begin with has been taken out at most
`fuel` times. -/
def alternativesUpTo : Nat → List Regex → Regex
  | 0, rs => alternation rs
  | fuel + 1, rs =>
    let rs := rs.flatMap branches
    match rs with
    | [r] => r
    | _ =>
      match rs.mapM singleChar? <|> rs.mapM set? with
      | some sets => ofSet (CharSet.unions sets)
      | none =>
        match sharedParts rs with
        | [] => alternation rs
        | shared =>
          let rests := rs.map fun r => sequence (r.parts.drop shared.length)
          sequence (shared ++ [alternativesUpTo fuel rests])

/-- Any of the expressions. -/
def alternatives (rs : List Regex) : Regex :=
  alternativesUpTo (rs.foldl (fun n r => n + r.size) 1) rs

end QueryFilter.Regex
