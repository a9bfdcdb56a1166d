import AccessControl.Effect.Selector

/-! Decisions about requests, and what they rest on. -/

namespace AccessControl

/-- The names of the request schema, the rule schema, the effect and the matcher of a decision. -/
structure Context where
  rtype : String
  ptype : String
  etype : String
  mtype : String
deriving Repr, DecidableEq

namespace Context

/-- The names that differ from their usual letters by what follows them. -/
def ofSuffix (suffix : String) : Context :=
  ⟨"r" ++ suffix, "p" ++ suffix, "e" ++ suffix, "m" ++ suffix⟩

/-- The usual letters. -/
def plain : Context := ofSuffix ""

/-- A context as a value of a request, which it is in every place but the first. -/
def value (context : Context) : Value :=
  .record "EnforceContext" [("rtype", .text context.rtype), ("ptype", .text context.ptype),
    ("etype", .text context.etype), ("mtype", .text context.mtype)]

end Context

/-- A decision with its trace, the rule that it rests on and the outcomes that led to it. -/
structure Decision where
  isAllowed : Bool
  verdict : Effect
  trace : List String
  request : List Value
  decidedBy : Option Rule
  outcomes : List Outcome
deriving Repr

namespace Decision

/-- The decision of an enforcer that is switched off. -/
def unasked (request : List Value) : Decision :=
  ⟨true, .allow, ["enforcer disabled"], request, none, []⟩

/-- The rule of the first matched outcome whose effect is a verdict that decides. -/
def decidingRule (verdict : Effect) (outcomes : List Outcome) : Option Rule :=
  if verdict.isDecisive then
    (outcomes.find? fun outcome =>
      outcome.isMatched && outcome.effect == verdict && !outcome.rule.isEmpty).map (·.rule)
  else none

/-- The decision that the outcomes of rules lead to. -/
def ofOutcomes (selector : Selector) (ptype : String) (request : List Value)
    (outcomes : List Outcome) : Decision :=
  let verdict := selector.combine outcomes
  { isAllowed := verdict == .allow
    verdict := verdict
    trace := outcomes.map (Outcome.describe ptype) ++ ["decision: " ++ verdict.word]
    request := request
    decidedBy := decidingRule verdict outcomes
    outcomes := outcomes }

end Decision

end AccessControl
