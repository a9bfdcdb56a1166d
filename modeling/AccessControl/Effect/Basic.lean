import AccessControl.Value.Text
import AccessControl.Rule.Basic
import AccessControl.Text.Lower

/-! Effects of rules, and the outcomes of asking a matcher about rules. -/

namespace AccessControl

/-- What a rule does to the requests that it matches, and what a decision does to its request. -/
inductive Effect
  | allow
  | deny
  | indeterminate
deriving Repr, DecidableEq

namespace Effect

/-- The word for an effect. -/
def word : Effect → String
  | .allow => "allow"
  | .deny => "deny"
  | .indeterminate => "indeterminate"

/-- The effect that a text names, whatever the case of its letters; other texts are
indeterminate. -/
def ofText (s : String) : Effect :=
  let name := Text.lower (Text.trim s)
  if name == "allow" then .allow else if name == "deny" then .deny else .indeterminate

/-- The effect that a value names. -/
def ofValue (value : Value) : Effect :=
  ofText value.asText

/-- The effect decides by itself. -/
def isDecisive (effect : Effect) : Bool :=
  effect != .indeterminate

end Effect

/-- What came of asking the matcher about one rule; a rule with an error is not matched. -/
structure Outcome where
  index : Nat
  rule : Rule
  isMatched : Bool
  effect : Effect
  subject : String
  error : Option String
deriving Repr, DecidableEq

/-- The line of a trace that tells of an outcome. -/
def Outcome.describe (ptype : String) (outcome : Outcome) : String :=
  let row := ptype ++ "[" ++ intText outcome.index ++ "] (" ++
    ", ".intercalate outcome.rule ++ "): "
  match outcome.error with
  | some message => row ++ "error: " ++ message
  | none =>
    row ++ if outcome.isMatched then "matched, effect=" ++ outcome.effect.word else "not matched"

end AccessControl
