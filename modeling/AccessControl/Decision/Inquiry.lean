import AccessControl.Decision.Basic
import AccessControl.Journal
import AccessControl.Matcher.Evaluation

/-! Inquiries: what a matcher says of a request and one rule after the other. -/

namespace AccessControl

/-- A request with its matcher, the schemas by which the request and the rules are read, and the
host. -/
structure Inquiry where
  function? : String → Option Callable
  context : Context
  matcher : Matcher
  request : List Value
  requestFields : List String
  policyFields : List String
  [host : Host]

namespace Inquiry

/-- The frame of the request. -/
def requestFrame (inquiry : Inquiry) : Frame where
  fields := inquiry.requestFields
  values := inquiry.request
  objects := inquiry.host.request

/-- The frame of a rule. -/
def ruleFrame (inquiry : Inquiry) (rule : Rule) : Frame where
  fields := inquiry.policyFields
  values := rule.map .text
  objects := inquiry.host.row (rule.map .text)

/-- What the matcher is evaluated in for a rule. -/
def environment (inquiry : Inquiry) (rule : Rule) : Environment where
  function? := inquiry.function?
  scope := Scope.ofRow inquiry.context.rtype inquiry.requestFrame
    inquiry.context.ptype (inquiry.ruleFrame rule)
  runtime := inquiry.host.toRuntime

/-- The position of a field in the rules. -/
def position? (inquiry : Inquiry) (name : String) : Option Nat :=
  inquiry.policyFields.findIdx? (· == name)

/-- The effect of a rule, which allows unless it has a field that says otherwise. -/
def effectOf (inquiry : Inquiry) (rule : Rule) : Effect :=
  match inquiry.position? "eft" with
  | some index => (rule[index]?.map Effect.ofText).getD .allow
  | none => .allow

/-- The subject of a rule, which is its first field unless another one is declared. -/
def subjectOf (inquiry : Inquiry) (rule : Rule) : String :=
  rule[(inquiry.position? "sub").getD 0]?.getD ""

/-- The warning that the matcher cannot be evaluated for a rule. -/
def warning (inquiry : Inquiry) (index : Nat) (rule : Rule) (error : Error) : Record :=
  ⟨.warning, .enforcer, "Error evaluating " ++ inquiry.context.ptype ++ "[" ++ intText index ++
    "] " ++ shownRow (rule.map .text) ++ ": " ++ error.message⟩

/-- The outcome for a rule; an error of the matcher leaves the rule unmatched. -/
def ask (inquiry : Inquiry) (index : Nat) (rule : Rule) : Logged Outcome :=
  match inquiry.matcher.holds (inquiry.environment rule) with
  | .ok isMatched =>
    .pure ⟨index, rule, isMatched, inquiry.effectOf rule, inquiry.subjectOf rule, none⟩
  | .error error =>
    if error.ofMatcher then do
      Logged.note [inquiry.warning index rule error]
      return ⟨index, rule, false, .allow, "", some error.message⟩
    else .fail error

/-- The outcomes for rules up to the first one that settles the verdict. -/
def askUntil (inquiry : Inquiry) (selector : Selector) : Nat → List Rule → Logged (List Outcome)
  | _, [] => .pure []
  | index, rule :: rest => do
    let outcome ← inquiry.ask index rule
    if selector.settles outcome then return [outcome]
    else
      let more ← askUntil inquiry selector (index + 1) rest
      return outcome :: more

/-- The rules to ask about; without rules an empty one stands for them if the matcher reads none. -/
def rows (inquiry : Inquiry) (rules : List Rule) : List Rule :=
  if rules.isEmpty && !inquiry.matcher.schemas.contains inquiry.context.ptype then [[]] else rules

/-- The decision that the matcher and the selector reach on rules. -/
def decide (inquiry : Inquiry) (selector : Selector) (rules : List Rule) : Logged Decision := do
  let outcomes ← inquiry.askUntil selector 0 (inquiry.rows rules)
  return Decision.ofOutcomes selector inquiry.context.ptype inquiry.request outcomes

end Inquiry

end AccessControl
