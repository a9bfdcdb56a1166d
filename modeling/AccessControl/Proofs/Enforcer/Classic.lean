import AccessControl.Proofs.Decision.Fields
import AccessControl.Proofs.Enforcer.Operation

/-! The classic model of roles: who may do what to which object, for oneself or through groups. -/

namespace AccessControl

/-- The matcher of the classic model, as it is written. -/
def classicExpression : String :=
  "g(r.sub, p.sub) && r.obj == p.obj && r.act == p.act"

/-- The fields of requests and of rules in the classic model. -/
def classicFields : List String := ["sub", "obj", "act"]

/-- The classic model of roles. -/
def Model.classic : Model where
  requests := [("r", classicFields)]
  policies := [("p", classicFields)]
  roles := [("g", ⟨"g", 2, by decide⟩)]
  effects := [("e", Model.defaultEffect)]
  matchers := [("m", classicExpression)]

/-- The matcher of the classic model, read. -/
def classicMatcher : Matcher where
  expression := classicExpression
  clauses := [
    .call ⟨"g", [.field ⟨"r", "sub", []⟩, .field ⟨"p", "sub", []⟩]⟩,
    .equation (.plain (.field ⟨"r", "obj", []⟩)) (.plain (.field ⟨"p", "obj", []⟩)) false,
    .equation (.plain (.field ⟨"r", "act", []⟩)) (.plain (.field ⟨"p", "act", []⟩)) false]

/-- The text of the classic matcher is one of a matcher. -/
theorem read_classicExpression : Matcher.read classicExpression = .ok classicMatcher := by rfl

/-- The matchers of the classic model are read. -/
theorem readMatchers_classic :
    Enforcer.readMatchers Model.classic.matchers = .ok [("m", classicMatcher)] :=
  Enforcer.readMatchers_singleton read_classicExpression

/-- The classic model is complete. -/
theorem validate_classic : Model.classic.validate = .ok () := by rfl

/-- The one policy type of the classic model is not its grouping type. -/
theorem isPolicyType_classic {name : String} : Model.classic.isPolicyType name = true ↔
    name = "p" := by
  -- There is but one entry to look a name up in.
  by_cases same : "p" = name
  · simp [Model.isPolicyType, Model.classic, lookupKey_cons, same]
  · simp [Model.isPolicyType, Model.classic, lookupKey_cons, same, Ne.symm same]

/-- The classic model makes an enforcer, whatever the functions and the configuration. -/
theorem create_classic [Host] (functions : Registry) (config : Config) :
    ∃ start, (Enforcer.create functions config .classic).result = .ok start :=
  Enforcer.setModel_ok validate_classic readMatchers_classic

/-- What is made of the classic model needs its matcher only as it is read. -/
theorem result_create_classic [Host] (functions : Registry) (config : Config) :
    (Enforcer.create functions config .classic).result =
      (Enforcer.fresh functions config .classic [("m", classicMatcher)]).followRules.result :=
  Enforcer.result_create validate_classic readMatchers_classic functions config

/-- The effect of the classic model asks for a rule that allows. -/
theorem ofText_defaultEffect : Selector.ofText Model.defaultEffect = .someAllow := by decide +kernel

/-- The classic matcher reads the rules. -/
theorem mem_schemas_classicMatcher : "p" ∈ classicMatcher.schemas := by
  simp [Matcher.mem_schemas, classicMatcher, Clause.schemas, Argument.schemas]

/-- The inquiry of the classic model about a request of three texts. -/
def classicInquiry (host : Host) (function? : String → Option Callable)
    (subject object action : String) : Inquiry where
  function? := function?
  context := .plain
  matcher := classicMatcher
  request := [.text subject, .text object, .text action]
  requestFields := classicFields
  policyFields := classicFields
  host := host

/-- Every stored rule is a row of an inquiry of the classic model. -/
theorem classicInquiry_rows (host : Host) (function? : String → Option Callable)
    (subject object action : String) (rules : List Rule) :
    (classicInquiry host function? subject object action).rows rules = rules :=
  (classicInquiry host function? subject object action).rows_eq mem_schemas_classicMatcher rules

/-- The rules of the classic model have no effect of their own, and so they allow. -/
theorem classicInquiry_effectOf (host : Host) (function? : String → Option Callable)
    (subject object action : String) (rule : Rule) :
    (classicInquiry host function? subject object action).effectOf rule = .allow := by
  rfl

section

variable {host : Host} {function? : String → Option Callable} {subject object action : String}
  {rule : Rule}

/-- The classic matcher holds for a rule if the subject is linked to that of the rule, and object
and action are those of the rule. -/
theorem classicMatcher_holds {h : Hierarchy}
    (bound : function? "g" = some (.membership (some (.hierarchy h)))) {answer : Bool}
    (linked : h.hasLink subject (rule.cell 0) "" = .ok answer) :
    classicMatcher.holds ((classicInquiry host function? subject object action).environment rule) =
      .ok (answer && (object == rule.cell 1 && action == rule.cell 2)) := by
  have asked := (classicInquiry host function? subject object action).resolve_text rfl
    (show classicFields.findIdx? (· == "sub") = some 0 from rfl) rfl rule
  have ruled := (classicInquiry host function? subject object action).resolve_rule rfl
    (show classicFields.findIdx? (· == "sub") = some 0 from rfl) rule
  have given : [Argument.field ⟨"r", "sub", []⟩, .field ⟨"p", "sub", []⟩].mapM (Argument.evaluate
      ((classicInquiry host function? subject object action).environment rule)) =
        .ok [.text subject, .text (rule.cell 0)] := by
    simp only [List.mapM_cons, List.mapM_nil, Argument.evaluate, asked, ruled, ok_bind, pure_eq_ok]
  -- The call asks for the link, and the equations compare texts.
  have member :
      Clause.holds ((classicInquiry host function? subject object action).environment rule)
      (.call ⟨"g", [.field ⟨"r", "sub", []⟩, .field ⟨"p", "sub", []⟩]⟩) = .ok answer := by
    rw [Clause.holds_membership none bound given]
    simp only [RoleManager.hasLink, Option.getD_none, linked]
    rfl
  have sameObject := (classicInquiry host function? subject object action).holds_equation rfl
    (show classicFields.findIdx? (· == "obj") = some 1 from rfl) rfl
    (show classicFields.findIdx? (· == "obj") = some 1 from rfl) rule
  have sameAction := (classicInquiry host function? subject object action).holds_equation rfl
    (show classicFields.findIdx? (· == "act") = some 2 from rfl) rfl
    (show classicFields.findIdx? (· == "act") = some 2 from rfl) rule
  -- A clause that does not hold ends the evaluation, as it decides the conjunction.
  simp only [Matcher.holds, classicMatcher, allHold, member, sameObject, sameAction, ok_bind,
    pure_eq_ok]
  cases answer <;> cases object == rule.cell 1 <;> cases action == rule.cell 2 <;> rfl

end

end AccessControl
