import AccessControl.Effect.Basic

/-! Selectors: how the outcomes of the rules give a verdict, and when no further outcome can change
it. -/

namespace AccessControl

/-- The ways to reach a verdict. -/
inductive Selector
  | someAllow
  | noDeny
  | allowAndNotDeny
  | priority
  | subjectPriority
deriving Repr, DecidableEq

namespace Selector

/-- All selectors. -/
def all : List Selector := [someAllow, noDeny, allowAndNotDeny, priority, subjectPriority]

/-- The text of a selector in lower case and without blanks. -/
def text : Selector → String
  | .someAllow => "some(where(p.eft==allow))"
  | .noDeny => "!some(where(p.eft==deny))"
  | .allowAndNotDeny => "some(where(p.eft==allow))&&!some(where(p.eft==deny))"
  | .priority => "priority(p.eft)||deny"
  | .subjectPriority => "subjectpriority(p.eft)||deny"

/-- A second text for the priority of subjects. -/
def subjectPriorityText : String := "subjectpriority(p.sub,p.eft)||deny"

/-- A text without blanks and in lower case. -/
def normalize (s : String) : String :=
  Text.lower (String.ofList (Text.removeBlanks s.toList))

/-- The selector of a text. -/
def parse? (s : String) : Option Selector :=
  let normalized := normalize s
  match all.find? fun selector => selector.text == normalized with
  | some selector => some selector
  | none => if normalized == subjectPriorityText then some .subjectPriority else none

/-- The selector of a text, where other texts ask for some rule that allows. -/
def ofText (s : String) : Selector :=
  (parse? s).getD .someAllow

/-- The warning that a text is no selector. -/
def warning (s : String) : String :=
  "Unsupported policy effect " ++ Text.quote s ++ ", falling back to " ++ Text.quote someAllow.text

/-- The warning that a text asks for, unless there was one for it, and the texts with one after
it. -/
def warn (warned : List String) (s : String) : Option String × List String :=
  let normalized := normalize s
  if (parse? s).isSome || warned.contains normalized then (none, warned)
  else (some (warning s), warned ++ [normalized])

end Selector

/-- The effect of the first outcome that decides. -/
def firstDecisive (outcomes : List Outcome) : Option Effect :=
  (outcomes.find? fun outcome => outcome.effect.isDecisive).map (·.effect)

/-- An outcome among these has the effect. -/
def anyEffect (effect : Effect) (outcomes : List Outcome) : Bool :=
  outcomes.any fun outcome => outcome.effect == effect

/-- For each subject the effect of its first outcome that decides, if one does. -/
def subjectVerdicts (outcomes : List Outcome) : List (Option Effect) :=
  outcomes.map fun outcome =>
    firstDecisive (outcomes.filter fun other => other.subject == outcome.subject)

namespace Selector

/-- The verdict that the selector reaches on outcomes; only matched ones count. -/
def combine (selector : Selector) (outcomes : List Outcome) : Effect :=
  let counted := outcomes.filter (·.isMatched)
  match selector with
  | .someAllow => if anyEffect .allow counted then .allow else .deny
  | .noDeny => if anyEffect .deny counted then .deny else .allow
  | .allowAndNotDeny =>
    if anyEffect .deny counted then .deny
    else if anyEffect .allow counted then .allow
    else .deny
  | .priority => (firstDecisive counted).getD .deny
  | .subjectPriority =>
    let verdicts := subjectVerdicts counted
    if verdicts.contains (some .deny) then .deny
    else if verdicts.contains (some .allow) then .allow
    else .indeterminate

/-- No outcome after this one can change the verdict. -/
def settles (selector : Selector) (outcome : Outcome) : Bool :=
  outcome.isMatched &&
    match selector with
    | .someAllow => outcome.effect == .allow
    | .noDeny | .allowAndNotDeny => outcome.effect == .deny
    | .priority => outcome.effect.isDecisive
    -- Every subject has to be seen.
    | .subjectPriority => false

end Selector

end AccessControl
