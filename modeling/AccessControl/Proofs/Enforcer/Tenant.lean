import AccessControl.Proofs.Decision.Containment
import AccessControl.Proofs.Decision.Fields
import AccessControl.Proofs.Enforcer.Operation
import AccessControl.Proofs.Role.Graph

/-! The tenant model: roles, rules and requests belong to domains, and a rule matches within its
own. -/

namespace AccessControl

/-! ### The model -/

/-- The matcher of the tenant model, as it is written. -/
def tenantExpression : String :=
  "g(r.sub, p.sub, r.dom) && r.dom == p.dom && r.obj == p.obj && r.act == p.act"

/-- The fields of requests and of rules in the tenant model. -/
def tenantFields : List String := ["sub", "dom", "obj", "act"]

/-- The tenant model with an effect, as it is written. -/
def Model.tenant (effect : String) : Model where
  requests := [("r", tenantFields)]
  policies := [("p", tenantFields)]
  roles := [("g", ⟨"g", 3, by decide⟩)]
  effects := [("e", effect)]
  matchers := [("m", tenantExpression)]

/-- The matcher of the tenant model, read. -/
def tenantMatcher : Matcher where
  expression := tenantExpression
  clauses := [
    .call ⟨"g", [.field ⟨"r", "sub", []⟩, .field ⟨"p", "sub", []⟩, .field ⟨"r", "dom", []⟩]⟩,
    .equation (.plain (.field ⟨"r", "dom", []⟩)) (.plain (.field ⟨"p", "dom", []⟩)) false,
    .equation (.plain (.field ⟨"r", "obj", []⟩)) (.plain (.field ⟨"p", "obj", []⟩)) false,
    .equation (.plain (.field ⟨"r", "act", []⟩)) (.plain (.field ⟨"p", "act", []⟩)) false]

/-- The text of the tenant matcher is one of a matcher. -/
theorem read_tenantExpression : Matcher.read tenantExpression = .ok tenantMatcher := by rfl

/-- The matchers of the tenant model are read. -/
theorem readMatchers_tenant (effect : String) :
    Enforcer.readMatchers (Model.tenant effect).matchers = .ok [("m", tenantMatcher)] :=
  Enforcer.readMatchers_singleton read_tenantExpression

/-- The tenant model is complete, whatever its effect. -/
theorem validate_tenant (effect : String) : (Model.tenant effect).validate = .ok () := by rfl

/-- The one policy type of the tenant model is apart from its grouping type. -/
theorem typesApart_tenant (effect name : String)
    (isPolicy : (Model.tenant effect).isPolicyType name = true) :
    (Model.tenant effect).isGroupingType name = false := by
  by_cases same : "p" = name
  · subst same
    rfl
  · -- Any other name is no policy type of this model.
    simp [Model.isPolicyType, Model.tenant, lookupKey_cons, same] at isPolicy

/-- The tenant matcher reads the rules. -/
theorem mem_schemas_tenantMatcher : "p" ∈ tenantMatcher.schemas := by
  simp [Matcher.mem_schemas, tenantMatcher, Clause.schemas, Argument.schemas]

/-- The inquiry of the tenant model about a request of four texts. -/
def tenantInquiry (host : Host) (function? : String → Option Callable)
    (subject domain object action : String) : Inquiry where
  function? := function?
  context := .plain
  matcher := tenantMatcher
  request := [.text subject, .text domain, .text object, .text action]
  requestFields := tenantFields
  policyFields := tenantFields
  host := host

section

variable {host : Host} {function? : String → Option Callable}
  {subject domain object action : String} {rule : Rule}

/-- The call of the matcher asks the hierarchy of the grouping type within the domain of the
request. -/
theorem tenant_member {h : Hierarchy}
    (bound : function? "g" = some (.membership (some (.hierarchy h)))) :
    Clause.holds ((tenantInquiry host function? subject domain object action).environment rule)
        (.call ⟨"g", [.field ⟨"r", "sub", []⟩, .field ⟨"p", "sub", []⟩, .field ⟨"r", "dom", []⟩]⟩) =
      (h.hasLink subject (rule.cell 0) domain).mapError fun error =>
        .evaluation (.failedCall "g(r.sub, p.sub, r.dom)" error.message) := by
  have member := (tenantInquiry host function? subject domain object action).resolve_text rfl
    (show tenantFields.findIdx? (· == "sub") = some 0 from rfl) rfl rule
  have within := (tenantInquiry host function? subject domain object action).resolve_text rfl
    (show tenantFields.findIdx? (· == "dom") = some 1 from rfl) rfl rule
  have group := (tenantInquiry host function? subject domain object action).resolve_rule rfl
    (show tenantFields.findIdx? (· == "sub") = some 0 from rfl) rule
  have given :
      [Argument.field ⟨"r", "sub", []⟩, .field ⟨"p", "sub", []⟩, .field ⟨"r", "dom", []⟩].mapM
      (Argument.evaluate
        ((tenantInquiry host function? subject domain object action).environment rule)) =
        .ok [.text subject, .text (rule.cell 0), .text domain] := by
    simp only [List.mapM_cons, List.mapM_nil, Argument.evaluate, member, within, group, ok_bind,
      pure_eq_ok]
  rw [Clause.holds_membership (some domain) bound given]
  rfl

/-- A rule matches if the hierarchy links the subject to that of the rule and all else is the same.
If the hierarchy does not tell, neither does the matcher. -/
theorem tenantMatcher_holds {h : Hierarchy}
    (bound : function? "g" = some (.membership (some (.hierarchy h)))) :
    tenantMatcher.holds
      ((tenantInquiry host function? subject domain object action).environment rule) =
      match h.hasLink subject (rule.cell 0) domain with
      | .ok answer =>
        .ok (answer && (domain == rule.cell 1 && (object == rule.cell 2 && action == rule.cell 3)))
      | .error error =>
        .error (.evaluation (.failedCall "g(r.sub, p.sub, r.dom)" error.message)) := by
  have member := @tenant_member host function? subject domain object action rule h bound
  -- The three equations compare texts at the same places of request and rule.
  have sameDomain := (tenantInquiry host function? subject domain object action).holds_equation rfl
    (show tenantFields.findIdx? (· == "dom") = some 1 from rfl) rfl
    (show tenantFields.findIdx? (· == "dom") = some 1 from rfl) rule
  have sameObject := (tenantInquiry host function? subject domain object action).holds_equation rfl
    (show tenantFields.findIdx? (· == "obj") = some 2 from rfl) rfl
    (show tenantFields.findIdx? (· == "obj") = some 2 from rfl) rule
  have sameAction := (tenantInquiry host function? subject domain object action).holds_equation rfl
    (show tenantFields.findIdx? (· == "act") = some 3 from rfl) rfl
    (show tenantFields.findIdx? (· == "act") = some 3 from rfl) rule
  simp only [Matcher.holds, tenantMatcher, allHold, member, sameDomain, sameObject, sameAction]
  -- The call comes first, so that a search without an answer ends the evaluation before the
  -- equations.
  cases h.hasLink subject (rule.cell 0) domain with
  | error error => rfl
  | ok answer =>
    cases answer <;> cases domain == rule.cell 1 <;> cases object == rule.cell 2 <;>
      cases action == rule.cell 3 <;> rfl

end

end AccessControl
