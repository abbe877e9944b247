import QueryFilter.Format.Yaml.Layout

/-!
# YAML values

A `Yaml` is a scalar, a sequence or a mapping, and `Yaml.ofTokens?` puts the values of a document
together from its tokens.  A value may have an anchor, and references to the anchor after that
stand for the value.  A reference within the value of its own anchor stands for a sequence, which
is of no use.
-/

namespace QueryFilter

/-- A value. A scalar has its resolved tag, which is empty if there is none. -/
inductive Yaml where
  | scalar (t : Text) (style : Yaml.Style) (tag : Text)
  | sequence (items : List Yaml)
  | mapping (entries : List (Yaml × Yaml))
deriving Inhabited

namespace Yaml

/-- The value that is not written. -/
def missing : Yaml := .scalar [] .plain []

/-- The anchors so far with their values. -/
abbrev Anchors := Array (Text × Yaml)

/-- What stands before a value: an anchor, a tag, or both in either order. -/
structure Properties where
  anchor : Option Text
  tag : Option Text

/-- The tag with a handle, for which a stem stands that is written before the rest. -/
def resolve? (handles : List (Text × Text)) (handle rest : Text) : Option Text :=
  if handle.isEmpty then some rest
  else (handles.find? (·.1 == handle)).map fun entry => entry.2 ++ rest

/-- Reads what stands before a value. -/
def properties? (handles : List (Text × Text)) : List Token → Option (Properties × List Token)
  | .anchor a :: .tag h t :: rest => (resolve? handles h t).map fun t => (⟨some a, some t⟩, rest)
  | .tag h t :: .anchor a :: rest => (resolve? handles h t).map fun t => (⟨some a, some t⟩, rest)
  | .anchor a :: rest => some (⟨some a, none⟩, rest)
  | .tag h t :: rest => (resolve? handles h t).map fun t => (⟨none, some t⟩, rest)
  | tokens => some (⟨none, none⟩, tokens)

/-- The next token is one of the given ones. -/
def next (tokens : List Token) (among : List Token) : Bool := tokens.head?.any among.contains

/-- What has been read of a document: a part, the anchors and the tokens left. -/
abbrev Part (α : Type) := α × Anchors × List Token

/-- A missing value before some tokens. -/
def nothing (anchors : Anchors) (tokens : List Token) : Option (Part Yaml) :=
  some (missing, anchors, tokens)

mutual

/-- Reads a value; `inBlock` says that a block may stand there, and `afterKey` that the items of a
sequence may stand there without a block of their own. There are less than `fuel` tokens, each
of which counts three times. -/
def node? (handles : List (Text × Text)) :
    Nat → Bool → Bool → Anchors → List Token → Option (Part Yaml)
  | 0, _, _, _, _ => none
  | _ + 1, _, _, anchors, .reference name :: rest =>
    (anchors.toList.reverse.find? (·.1 == name)).map fun entry => (entry.2, anchors, rest)
  | fuel + 1, inBlock, afterKey, anchors, tokens => do
    let (properties, tokens) ← properties? handles tokens
    match properties.anchor with
    | none => content? handles fuel inBlock afterKey properties anchors tokens
    | some name =>
      let opened := anchors.push (name, .sequence [])
      let (y, later, rest) ← content? handles fuel inBlock afterKey properties opened tokens
      some (y, later.setIfInBounds anchors.size (name, y), rest)

/-- Reads a value without what stands before it. -/
def content? (handles : List (Text × Text)) :
    Nat → Bool → Bool → Properties → Anchors → List Token → Option (Part Yaml)
  | 0, _, _, _, _, _ => none
  | fuel + 1, inBlock, afterKey, properties, anchors, tokens =>
    let tag := properties.tag.getD []
    let sequence := fun part : Option (Part (List Yaml)) =>
      part.map fun (ys, rest) => (.sequence ys, rest)
    let mapping := fun part : Option (Part (List (Yaml × Yaml))) =>
      part.map fun (es, rest) => (.mapping es, rest)
    match tokens, inBlock, afterKey with
    | .scalar t style :: rest, _, _ => some (.scalar t style tag, anchors, rest)
    | .bracketOpen :: rest, _, _ => sequence (bracketItems? handles fuel true anchors rest)
    | .braceOpen :: rest, _, _ => mapping (braceEntries? handles fuel true anchors rest)
    | .sequenceStart :: rest, true, _ => sequence (blockItems? handles fuel true anchors rest)
    | .mappingStart :: rest, true, _ => mapping (blockEntries? handles fuel anchors rest)
    | .item :: _, _, true => sequence (blockItems? handles fuel false anchors tokens)
    | _, _, _ =>
      if properties.anchor.isSome || properties.tag.isSome then
        some (.scalar [] .plain tag, anchors, tokens)
      else none

/-- Reads the items of a sequence up to the end of its block, or, without a block of its own, to
the first token that begins no item. -/
def blockItems? (handles : List (Text × Text)) :
    Nat → Bool → Anchors → List Token → Option (Part (List Yaml))
  | 0, _, _, _ => none
  | fuel + 1, inBlock, anchors, .item :: rest => do
    let (y, anchors, rest) ←
      if next rest [.item, .blockEnd] || (!inBlock && next rest [.key, .value]) then
        nothing anchors rest
      else node? handles fuel true false anchors rest
    let (ys, rest) ← blockItems? handles fuel inBlock anchors rest
    some (y :: ys, rest)
  | _ + 1, false, anchors, rest => some ([], anchors, rest)
  | _ + 1, true, anchors, .blockEnd :: rest => some ([], anchors, rest)
  | _ + 1, true, _, _ => none

/-- Reads the entries of a mapping up to the end of its block. -/
def blockEntries? (handles : List (Text × Text)) :
    Nat → Anchors → List Token → Option (Part (List (Yaml × Yaml)))
  | 0, _, _ => none
  | fuel + 1, anchors, .key :: rest => do
    let ends := [Token.key, .value, .blockEnd]
    let (k, anchors, rest) ←
      if next rest ends then nothing anchors rest else node? handles fuel true true anchors rest
    let (v, anchors, rest) ← match rest with
      | .value :: rest =>
        if next rest ends then nothing anchors rest else node? handles fuel true true anchors rest
      | rest => nothing anchors rest
    let (es, rest) ← blockEntries? handles fuel anchors rest
    some ((k, v) :: es, rest)
  | _ + 1, anchors, .blockEnd :: rest => some ([], anchors, rest)
  | _ + 1, _, _ => none

/-- Reads the items up to a closing bracket; commas stand between them. A key with a value is a
mapping of its own. -/
def bracketItems? (handles : List (Text × Text)) :
    Nat → Bool → Anchors → List Token → Option (Part (List Yaml))
  | 0, _, _, _ => none
  | _ + 1, _, anchors, .bracketClose :: rest => some ([], anchors, rest)
  | fuel + 1, first, anchors, tokens => do
    let tokens ← if first then some tokens else match tokens with
      | .comma :: rest => some rest
      | _ => none
    match tokens with
    | .bracketClose :: rest => some ([], anchors, rest)
    | .key :: rest =>
      let (k, anchors, rest) ←
        if next rest [.value, .comma, .bracketClose] then nothing anchors (rest.drop 1)
        else node? handles fuel false false anchors rest
      let (v, anchors, rest) ← flowValue? handles fuel .bracketClose anchors rest
      let (ys, rest) ← bracketItems? handles fuel false anchors rest
      some (.mapping [(k, v)] :: ys, rest)
    | tokens =>
      let (y, anchors, rest) ← node? handles fuel false false anchors tokens
      let (ys, rest) ← bracketItems? handles fuel false anchors rest
      some (y :: ys, rest)

/-- Reads the entries up to a closing brace; commas stand between them. -/
def braceEntries? (handles : List (Text × Text)) :
    Nat → Bool → Anchors → List Token → Option (Part (List (Yaml × Yaml)))
  | 0, _, _, _ => none
  | _ + 1, _, anchors, .braceClose :: rest => some ([], anchors, rest)
  | fuel + 1, first, anchors, tokens => do
    let tokens ← if first then some tokens else match tokens with
      | .comma :: rest => some rest
      | _ => none
    match tokens with
    | .braceClose :: rest => some ([], anchors, rest)
    | .key :: rest =>
      let (k, anchors, rest) ←
        if next rest [.value, .comma, .braceClose] then nothing anchors rest
        else node? handles fuel false false anchors rest
      let (v, anchors, rest) ← flowValue? handles fuel .braceClose anchors rest
      let (es, rest) ← braceEntries? handles fuel false anchors rest
      some ((k, v) :: es, rest)
    | tokens =>
      let (k, anchors, rest) ← node? handles fuel false false anchors tokens
      let (es, rest) ← braceEntries? handles fuel false anchors rest
      some ((k, missing) :: es, rest)

/-- Reads the value of a key within brackets or braces, which the token `close` closes. -/
def flowValue? (handles : List (Text × Text)) :
    Nat → Token → Anchors → List Token → Option (Part Yaml)
  | 0, _, _, _ => none
  | fuel + 1, close, anchors, .value :: rest =>
    if next rest [.comma, close] then nothing anchors rest
    else node? handles fuel false false anchors rest
  | _ + 1, _, anchors, tokens => nothing anchors tokens

end

/-! ### Documents -/

/-- The handles of tags that need no directive. -/
def defaultHandles : List (Text × Text) :=
  [(['!'], ['!']), ("!!".toList, "tag:yaml.org,2002:".toList)]

/-- Reads the directives before a document: the handles that they declare, and whether there is a
version. Neither may be declared twice, and the version is 1.1 or 1.2. -/
def directives? (version : Bool) (handles : List (Text × Text)) :
    List Token → Option (Bool × List (Text × Text) × List Token)
  | .version major minor :: rest =>
    if !version && major == 1 && (minor == 1 || minor == 2) then directives? true handles rest
    else none
  | .handle name stem :: rest =>
    if handles.any (·.1 == name) then none
    else directives? version (handles ++ [(name, stem)]) rest
  | rest => some (version, handles, rest)

/-- The value of a document with the given tokens; an empty one has the missing value. -/
def ofTokens? (tokens : List Token) : Option Yaml := do
  let (version, declared, rest) ← directives? false [] tokens
  let handles := declared ++ defaultHandles
  let fuel := 3 * tokens.length + 3
  let (y, rest) ← match rest with
    | .documentStart :: rest =>
      match rest with
      | [] | .documentStart :: _ | .documentEnd :: _ => some (missing, rest)
      | _ => (node? handles fuel true false #[] rest).map fun (y, _, rest) => (y, rest)
    | [] => if version || !declared.isEmpty then none else some (missing, [])
    | rest =>
      if version || !declared.isEmpty then none
      else (node? handles fuel true false #[] rest).map fun (y, _, rest) => (y, rest)
  if rest.all (· == .documentEnd) then some y else none

end Yaml

end QueryFilter
