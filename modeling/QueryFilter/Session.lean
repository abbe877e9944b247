import QueryFilter.Registry

/-!
# Sessions

The uses of a registry as `Action`s with their `Answer`s.  `Session.perform` carries one out, and
`Session.run` a sequence of them, each on the registry that the one before leaves behind.
-/

namespace QueryFilter

/-- A use of a registry. -/
inductive Action where
  | evaluator (f : Field)
  | predicate (f : Field) (input : Input) (sent : Option SentValues)
  | registerAlias (f : Field) (aliasName : Text)
  | aliasName (f : Field)
  | setLoose (loose : Bool)
  | loose

/-- What a registry answers. -/
inductive Answer where
  | evaluator (serial : Option Nat)
  | predicate (result : Except Failure (Option Expr))
  | aliasName (name : Option Text)
  | loose (loose : Bool)
  | done

namespace Session

/-- Carries out one action. -/
def perform (r : Registry) : Action → Registry × Answer
  | .evaluator f =>
    let (r, e) := r.serve f
    (r, .evaluator (e.map (·.serial)))
  | .predicate f input sent =>
    let (r, result) := r.ask f input sent
    (r, .predicate result)
  | .registerAlias f aliasName => (r.registerAlias f aliasName, .done)
  | .aliasName f => (r, .aliasName (r.alias? f))
  | .setLoose loose => (r.setLoose loose, .done)
  | .loose => (r, .loose r.loose)

/-- Carries out a sequence of actions: the registry in the end, and the answers in order. -/
def run (r : Registry) : List Action → Registry × List Answer
  | [] => (r, [])
  | a :: actions =>
    let (r, answer) := perform r a
    let (r, answers) := run r actions
    (r, answer :: answers)

end Session

end QueryFilter
