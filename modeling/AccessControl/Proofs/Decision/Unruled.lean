import AccessControl.Callable.Builtin
import AccessControl.Proofs.Decision.Fields
import AccessControl.Proofs.Decision.Stopping
import AccessControl.Proofs.Enforcer.Operation

/-! Decisions where no rule is stored and the matcher reads rules: there is no outcome, and the
selector alone gives the verdict. -/

namespace AccessControl

/-! ### What a matcher reads -/

/-- The reference is the operand itself, or an argument of the call that the operand is. -/
inductive Operand.Mentions (ref : FieldRef) : Operand → Prop
  | itself : Mentions ref (.plain (.field ref))
  | argument {c : Call} (given : .field ref ∈ c.arguments) : Mentions ref (.call c)

/-- The reference stands on a side of the clause, or in the call that the clause is. -/
inductive Clause.Mentions (ref : FieldRef) : Clause → Prop
  | call {c : Call} (inside : Operand.Mentions ref (.call c)) : Mentions ref (.call c)
  | equation {lhs rhs : Operand} {negated : Bool} (side : lhs.Mentions ref ∨ rhs.Mentions ref) :
    Mentions ref (.equation lhs rhs negated)
  | inequality {symbol : Inequality} {lhs rhs : Operand}
    (side : lhs.Mentions ref ∨ rhs.Mentions ref) :
    Mentions ref (.inequality symbol lhs rhs)

/-- The matcher has a reference to a field of the schema, in some operand or argument. -/
def Matcher.Reads (matcher : Matcher) (schema : String) : Prop :=
  ∃ clause ∈ matcher.clauses, ∃ ref : FieldRef, clause.Mentions ref ∧ ref.schema = schema

/-- An argument refers to a schema if it is a reference to one of its fields. -/
theorem Argument.mem_schemas {argument : Argument} {schema : String} :
    schema ∈ argument.schemas ↔ ∃ ref, argument = .field ref ∧ ref.schema = schema := by
  cases argument with
  -- A reference names its schema.
  | field ref => simp [schemas, eq_comm]
  -- A constant names none.
  | literal constant => simp [schemas]

/-- The schemas of an operand are those of the references that it mentions. -/
theorem Operand.mem_schemas {operand : Operand} {schema : String} :
    schema ∈ operand.schemas ↔ ∃ ref, operand.Mentions ref ∧ ref.schema = schema := by
  cases operand with
  -- What stands alone mentions itself, if it is a reference.
  | plain argument =>
    simp only [schemas, Argument.mem_schemas]
    constructor
    · rintro ⟨ref, rfl, named⟩
      exact ⟨ref, .itself, named⟩
    · rintro ⟨ref, mentioned, named⟩
      cases mentioned
      exact ⟨ref, rfl, named⟩
  -- A call mentions the references among its arguments.
  | call c =>
    simp only [schemas, List.mem_flatMap, Argument.mem_schemas]
    constructor
    · rintro ⟨_, given, ref, rfl, named⟩
      exact ⟨ref, .argument given, named⟩
    · rintro ⟨ref, mentioned, named⟩
      cases mentioned with
      | argument given => exact ⟨_, given, ref, rfl, named⟩

/-- The schemas of a clause are those of the references that it mentions. -/
theorem Clause.mem_schemas {clause : Clause} {schema : String} :
    schema ∈ clause.schemas ↔ ∃ ref, clause.Mentions ref ∧ ref.schema = schema := by
  -- Both kinds of comparison mention what one of their sides mentions.
  have sides : ∀ lhs rhs : Operand, schema ∈ lhs.schemas ++ rhs.schemas ↔
      ∃ ref : FieldRef, (lhs.Mentions ref ∨ rhs.Mentions ref) ∧ ref.schema = schema := by
    intro lhs rhs
    simp only [List.mem_append, Operand.mem_schemas, or_and_right, exists_or]
  cases clause with
  -- A call mentions what its arguments mention.
  | call c =>
    refine (@Operand.mem_schemas (.call c) schema).trans
      (exists_congr fun ref => and_congr_left' ?_)
    exact ⟨.call, fun mentioned => by cases mentioned; assumption⟩
  -- An equation mentions what its sides do.
  | equation lhs rhs negated =>
    refine (sides lhs rhs).trans (exists_congr fun ref => and_congr_left' ?_)
    exact ⟨.equation, fun mentioned => by cases mentioned; assumption⟩
  -- And so does an inequality.
  | inequality symbol lhs rhs =>
    refine (sides lhs rhs).trans (exists_congr fun ref => and_congr_left' ?_)
    exact ⟨.inequality, fun mentioned => by cases mentioned; assumption⟩

/-- The schemas of a matcher are those that it reads. -/
theorem Matcher.mem_schemas_iff_reads {matcher : Matcher} {schema : String} :
    schema ∈ matcher.schemas ↔ matcher.Reads schema := by
  simp only [Matcher.mem_schemas, Clause.mem_schemas, Reads]

/-! ### Verdicts without outcomes -/

/-- Without outcomes only the selector that looks for denials alone allows. -/
theorem Selector.combine_nil (selector : Selector) : selector.combine [] = .allow ↔
    selector = .noDeny := by
  cases selector <;> decide

/-- Without rules a matcher that reads them has no outcome. -/
theorem Inquiry.decide_nil {inquiry : Inquiry} (reads : inquiry.matcher.Reads inquiry.context.ptype)
    (selector : Selector) : (inquiry.decide selector []).result =
      .ok (Decision.ofOutcomes selector inquiry.context.ptype inquiry.request []) := by
  -- A matcher that reads rules is asked about no empty rule.
  rw [decide, inquiry.rows_eq (Matcher.mem_schemas_iff_reads.mpr reads)]
  rfl

namespace Enforcer

/-- If the matcher of an inquiry reads the schema of the rules, nothing but rules are its rows. -/
theorem rows_of_reads {enforcer : Enforcer} {context : Context} {expression : String}
    {request : List Value} {inquiry : Inquiry}
    (posed : enforcer.inquiry context expression request = .ok inquiry)
    (reads : inquiry.matcher.Reads context.ptype) (rules : List Rule) :
    inquiry.rows rules = rules := by
  obtain ⟨sameContext, _⟩ := inquiry_eq_ok posed
  exact inquiry.rows_eq (sameContext ▸ Matcher.mem_schemas_iff_reads.mpr reads) rules

/-- A request with a value for each field of a declared schema poses an inquiry by the matcher
chosen. -/
theorem inquiry_of_fits {enforcer : Enforcer} {context : Context} {expression : String}
    {request : List Value} {matcher : Matcher}
    (declared : enforcer.model.requestFields context.rtype ≠ [])
    (fits : request.length = (enforcer.model.requestFields context.rtype).length)
    (shaped : enforcer.model.policyFields context.ptype ≠ [])
    (chosen : enforcer.matcherFor context expression = .ok matcher) :
    enforcer.inquiry context expression request =
      .ok {
        function? := enforcer.function?
        context, matcher, request
        requestFields := enforcer.model.requestFields context.rtype
        policyFields := enforcer.model.policyFields context.ptype
        host := enforcer.host } := by
  simp [inquiry, declared, fits, shaped, chosen]

section

variable {enforcer : Enforcer} {context : Context} {expression : String} {request : List Value}
  {matcher : Matcher}

/-- If no rule of the type is stored and the matcher reads the schema of the rules, the decision
about a request that fits its schema is made of no outcomes. -/
theorem decide_of_unruled (enabled : enforcer.enabled.isTrue = true)
    (declared : enforcer.model.requestFields context.rtype ≠ [])
    (fits : request.length = (enforcer.model.requestFields context.rtype).length)
    (shaped : enforcer.model.policyFields context.ptype ≠ [])
    (chosen : enforcer.matcherFor context expression = .ok matcher)
    (reads : matcher.Reads context.ptype) (unruled : enforcer.store.rules context.ptype = []) :
    (enforcer.decide context expression request).result =
      .ok (Decision.ofOutcomes (enforcer.selector context) context.ptype request []) := by
  have posed := inquiry_of_fits declared fits shaped chosen
  rw [decide_result enabled posed, unruled, Inquiry.decide_nil reads]

/-- If no rule of the type is stored and the matcher reads the schema of the rules, a request that
fits its schema gets a decision without outcomes, which no rule made. The request is allowed by the
one selector that only looks for a denial, and by no other. -/
theorem decide_unruled (enabled : enforcer.enabled.isTrue = true)
    (declared : enforcer.model.requestFields context.rtype ≠ [])
    (fits : request.length = (enforcer.model.requestFields context.rtype).length)
    (shaped : enforcer.model.policyFields context.ptype ≠ [])
    (chosen : enforcer.matcherFor context expression = .ok matcher)
    (reads : matcher.Reads context.ptype) (unruled : enforcer.store.rules context.ptype = []) :
    ∃ decision, (enforcer.decide context expression request).result = .ok decision ∧
      decision.outcomes = [] ∧ decision.decidedBy = none ∧
      (decision.isAllowed = true ↔ enforcer.selector context = .noDeny) := by
  refine ⟨_, decide_of_unruled enabled declared fits shaped chosen reads unruled, rfl, ?_, ?_⟩
  · -- Among no outcomes there is none that decides.
    simp [Decision.ofOutcomes, Decision.decidingRule]
  · -- The verdict is that of the selector on nothing.
    simp only [Decision.ofOutcomes, beq_iff_eq]
    exact Selector.combine_nil _

end

/-- A model that asks for the path of a rule in an argument of a call. -/
def pathModel (selector : Selector) : Model where
  requests := [("r", ["obj"])]
  policies := [("p", ["obj"])]
  roles := []
  effects := [("e", selector.text)]
  matchers := [("m", "keyMatch(r.obj, p.obj)")]

/-- The one clause of the matcher of that model. -/
def pathClause : Clause :=
  .call ⟨"keyMatch", [.field ⟨"r", "obj", []⟩, .field ⟨"p", "obj", []⟩]⟩

/-- The enforcer of that model, before it has any rules. -/
def pathEnforcer (selector : Selector) : Logged Enforcer :=
  create (.builtin 0) .default (pathModel selector)

/-- That enforcer is there and switched on, and its matcher reads the rules, of which there are
none. -/
theorem pathEnforcer_facts (selector : Selector) : ∃ enforcer matcher,
    (pathEnforcer selector).result = .ok enforcer ∧ enforcer.enabled.isTrue = true ∧
      enforcer.model = pathModel selector ∧ enforcer.matcherFor .plain "" = .ok matcher ∧
      matcher.Reads "p" ∧ enforcer.store.rules "p" = [] := by
  -- What is made is evaluated once, for each of the selectors.
  have facts : (pathEnforcer selector).result.toOption.map (fun enforcer =>
      (enforcer.enabled.isTrue, enforcer.model,
        (enforcer.matcherFor .plain "").toOption.map Matcher.clauses, enforcer.store.rules "p")) =
      some (true, pathModel selector, some [pathClause], []) := by
    rw [pathEnforcer, @result_create _ _ [("m", ⟨"keyMatch(r.obj, p.obj)", [pathClause]⟩)]
      rfl (by rfl)]
    cases selector <;> decide +kernel
  obtain ⟨enforcer, made, facts⟩ := toOption_map_eq_some.mp facts
  simp only [Prod.mk.injEq] at facts
  obtain ⟨enabled, model, clauses, rules⟩ := facts
  obtain ⟨matcher, read, clauses⟩ := toOption_map_eq_some.mp clauses
  -- The second argument of the call is a field of the rules.
  have reads : matcher.Reads "p" :=
    ⟨pathClause, by simp [clauses], ⟨"p", "obj", []⟩, .call (.argument (by decide)), rfl⟩
  exact ⟨enforcer, matcher, made, enabled, model, read, reads, rules⟩

/-- The selector of the model is the selector of decisions. -/
theorem selector_pathModel {enforcer : Enforcer} {selector : Selector}
    (model : enforcer.model = pathModel selector) : enforcer.selector .plain = selector := by
  rw [Enforcer.selector, model]
  cases selector <;> decide +kernel

/-- By the priority of subjects a request for a path is not allowed before there are rules. -/
theorem decide_unruled_path : ∃ enforcer matcher decision,
    (pathEnforcer .subjectPriority).result = .ok enforcer ∧ enforcer.enabled.isTrue = true ∧
      enforcer.model.requestFields "r" ≠ [] ∧ enforcer.model.policyFields "p" ≠ [] ∧
      [Value.text "/data"].length = (enforcer.model.requestFields "r").length ∧
      enforcer.matcherFor .plain "" = .ok matcher ∧ matcher.Reads "p" ∧
      enforcer.store.rules "p" = [] ∧
      (enforcer.decide .plain "" [.text "/data"]).result = .ok decision ∧
      decision.isAllowed = false := by
  obtain ⟨enforcer, matcher, made, enabled, model, chosen, reads, unruled⟩ :=
    pathEnforcer_facts .subjectPriority
  have declared : enforcer.model.requestFields "r" ≠ [] := by rw [model]; decide
  have fits : [Value.text "/data"].length = (enforcer.model.requestFields "r").length := by
    rw [model]
    rfl
  have shaped : enforcer.model.policyFields "p" ≠ [] := by rw [model]; decide
  obtain ⟨decision, decided, _, _, allows⟩ :=
    @decide_unruled enforcer .plain "" _ matcher enabled declared fits shaped chosen reads unruled
  -- This selector is another one, so nothing is allowed.
  have denied : ¬ decision.isAllowed = true := by
    rw [allows, selector_pathModel model]
    decide
  exact ⟨enforcer, matcher, decision, made, enabled, declared, shaped, fits, chosen, reads, unruled,
    decided, Bool.not_eq_true _ ▸ denied⟩

/-- By the selector that only looks for a denial the request is allowed before there are rules. -/
theorem allowed_unruled : ∃ enforcer matcher decision,
    (pathEnforcer .noDeny).result = .ok enforcer ∧ enforcer.enabled.isTrue = true ∧
      [Value.text "/data"].length = (enforcer.model.requestFields "r").length ∧
      enforcer.matcherFor .plain "" = .ok matcher ∧ matcher.Reads "p" ∧
      enforcer.store.rules "p" = [] ∧
      (enforcer.decide .plain "" [.text "/data"]).result = .ok decision ∧
      decision.isAllowed = true := by
  obtain ⟨enforcer, matcher, made, enabled, model, chosen, reads, unruled⟩ :=
    pathEnforcer_facts .noDeny
  have declared : enforcer.model.requestFields "r" ≠ [] := by rw [model]; decide
  have fits : [Value.text "/data"].length = (enforcer.model.requestFields "r").length := by
    rw [model]
    rfl
  have shaped : enforcer.model.policyFields "p" ≠ [] := by rw [model]; decide
  have decided := @decide_of_unruled enforcer .plain "" _ matcher enabled declared fits
    shaped chosen reads unruled
  refine ⟨enforcer, matcher, _, made, enabled, fits, chosen, reads, unruled, decided, ?_⟩
  rw [selector_pathModel model]
  rfl

end Enforcer

end AccessControl
