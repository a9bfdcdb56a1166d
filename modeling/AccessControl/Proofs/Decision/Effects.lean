import AccessControl.Proofs.Decision.Containment
import AccessControl.Proofs.Decision.Fields
import AccessControl.Proofs.Decision.Reordered

/-! The effect of an outcome is the one that a matcher reads in the field of the effect, unless the
rule ends before that field. -/

namespace AccessControl

/-- The effect is one of the fields of a schema, and the rule ends before it. -/
def Rule.EndsBeforeEffect (fields : List String) (rule : Rule) : Prop :=
  ∃ place, fields.findIdx? (· == "eft") = some place ∧ rule.length ≤ place

/-- The field of the effect of rules of a type. -/
def FieldRef.effect (ptype : String) : FieldRef := ⟨ptype, "eft", []⟩

namespace Inquiry

variable {inquiry : Inquiry} {rule : Rule} {index : Nat} {outcome : Outcome}

/-! ### Effects of rules -/

/-- Under the name of their schema a matcher finds the fields of the rule, also if the request has
that name. -/
theorem lookupKey_rule (inquiry : Inquiry) (rule : Rule) :
    lookupKey inquiry.context.ptype (inquiry.environment rule).scope =
      some (inquiry.ruleFrame rule) :=
  lookupKey_insertKey_self

/-- A declared effect is read as the cell of the rule. -/
theorem resolve_effect {place : Nat} (declared : inquiry.position? "eft" = some place)
    (rule : Rule) :
    FieldRef.resolve (inquiry.environment rule).scope (.effect inquiry.context.ptype) =
      .ok (.text (rule.cell place)) := by
  rw [FieldRef.effect, FieldRef.resolve_field (inquiry.lookupKey_rule rule) declared]
  exact congrArg _ (rule.getD_text place)

/-- An effect that is not declared is read as allowing. -/
theorem resolve_effect_undeclared (named : inquiry.context.ptype.toList.head? = some 'p')
    (undeclared : inquiry.position? "eft" = none) (rule : Rule) :
    FieldRef.resolve (inquiry.environment rule).scope (.effect inquiry.context.ptype) =
      .ok (.text "allow") := by
  have found := inquiry.lookupKey_rule rule
  have absent : (inquiry.ruleFrame rule).fields.findIdx? (· == "eft") = none := undeclared
  simp [FieldRef.resolve, FieldRef.effect, found, FieldRef.base, absent, named]

/-- No effect is named by an empty text. -/
theorem ofText_empty : Effect.ofText "" = .indeterminate := by decide +kernel

/-- The word for allowing names that effect. -/
theorem ofText_allow : Effect.ofText "allow" = .allow := by decide +kernel

/-- In a rule that reaches a declared effect this is the one that its cell names. -/
theorem effectOf_cell {place : Nat} (declared : inquiry.position? "eft" = some place)
    (reaches : place < rule.length) : inquiry.effectOf rule = Effect.ofText (rule.cell place) := by
  simp [effectOf, declared, Rule.cell, reaches]

/-- A rule that ends before a declared effect allows. -/
theorem effectOf_short {place : Nat} (declared : inquiry.position? "eft" = some place)
    (short : rule.length ≤ place) : inquiry.effectOf rule = .allow := by
  simp [effectOf, declared, short]

/-! ### Outcomes -/

/-- An outcome without an error has the effect of its rule, and one with an error is not matched and
has the effect that allows. -/
theorem ask_effect (asked : (inquiry.ask index rule).result = .ok outcome) : outcome.rule = rule ∧
    (outcome.error = none ∧ outcome.effect = inquiry.effectOf rule ∨
      outcome.error ≠ none ∧ outcome.isMatched = false ∧ outcome.effect = .allow) := by
  unfold ask at asked
  split at asked
  · -- The rule has an answer.
    obtain rfl := Except.ok.inj asked
    exact ⟨rfl, .inl ⟨rfl, rfl⟩⟩
  · split at asked
    · -- The error is contained.
      obtain ⟨_, _, asked⟩ := Logged.bind_ok.mp asked
      obtain rfl := Except.ok.inj asked
      exact ⟨rfl, .inr ⟨nofun, rfl, rfl⟩⟩
    · -- The error goes on, so there is no outcome.
      cases asked

/-- The field of the effect has a value for any rule. The outcome for the rule has the effect that
this value names, unless the rule ends before the field, which then is empty while the outcome
allows. -/
theorem resolve_ask_effect (inquiry : Inquiry)
    (named : inquiry.context.ptype.toList.head? = some 'p') (rule : Rule) :
    ∃ value, FieldRef.resolve (inquiry.environment rule).scope
      (.effect inquiry.context.ptype) = .ok value ∧
      ∀ index outcome, (inquiry.ask index rule).result = .ok outcome →
        (outcome.error = none →
          (outcome.effect = Effect.ofValue value ↔ ¬ rule.EndsBeforeEffect inquiry.policyFields)) ∧
        (rule.EndsBeforeEffect inquiry.policyFields →
          value = .text "" ∧ Effect.ofValue value = .indeterminate ∧ outcome.effect = .allow) ∧
        (outcome.error ≠ none → outcome.isMatched = false) := by
  -- Whether or not there was an error, the outcome of a rule that allows has the effect that
  -- allows.
  have unmatched {index : Nat} {outcome : Outcome}
      (asked : (inquiry.ask index rule).result = .ok outcome)
      (failed : outcome.error ≠ none) : outcome.isMatched = false := by
    rcases (ask_effect asked).2 with ⟨answered, _⟩ | ⟨_, apart, _⟩
    · -- There is an error.
      exact absurd answered failed
    · -- An outcome with an error is not matched.
      exact apart
  have told {index : Nat} {outcome : Outcome}
      (asked : (inquiry.ask index rule).result = .ok outcome)
      (answered : outcome.error = none) : outcome.effect = inquiry.effectOf rule := by
    rcases (ask_effect asked).2 with ⟨_, same⟩ | ⟨failed, _⟩
    · -- Without an error the effect is that of the rule.
      exact same
    · -- There is no error.
      exact absurd answered failed
  cases declared : inquiry.position? "eft" with
  | none =>
    -- Without a declared effect the rule allows, and so does what a matcher reads.
    have endless : ¬ rule.EndsBeforeEffect inquiry.policyFields := by
      rintro ⟨place, found, _⟩
      cases declared.symm.trans found
    refine ⟨_, inquiry.resolve_effect_undeclared named declared rule, fun index outcome asked =>
      ⟨fun answered => iff_of_true ?_ endless, fun short => absurd short endless, unmatched asked⟩⟩
    rw [told asked answered, effectOf, declared]
    exact ofText_allow.symm
  | some place =>
    refine ⟨_, inquiry.resolve_effect declared rule, fun index outcome asked => ?_⟩
    by_cases short : rule.length ≤ place
    · -- The cell is empty, and the rule allows for want of it.
      have ends : rule.EndsBeforeEffect inquiry.policyFields := ⟨place, declared, short⟩
      have empty : rule.cell place = "" := by simp [Rule.cell, short]
      have allows : outcome.effect = .allow := by
        rcases (ask_effect asked).2 with ⟨_, same⟩ | ⟨_, _, allows⟩
        · rw [same, effectOf_short declared short]
        · exact allows
      have unnamed : Effect.ofValue (.text (rule.cell place)) = .indeterminate := by
        rw [empty]
        exact ofText_empty
      refine ⟨fun _ => iff_of_false ?_ (not_not_intro ends), fun _ =>
        ⟨by rw [empty], unnamed, allows⟩, unmatched asked⟩
      rw [allows, unnamed]
      decide
    · -- The cell is there, and its text names the effect.
      have reaches : ¬ rule.EndsBeforeEffect inquiry.policyFields := by
        rintro ⟨other, found, ends⟩
        obtain rfl := Option.some.inj (declared.symm.trans found)
        exact short ends
      refine ⟨fun answered => iff_of_true ?_ reaches, fun ends => absurd ends reaches,
        unmatched asked⟩
      rw [told asked answered, effectOf_cell declared (Nat.not_le.mp short)]
      rfl

/-- Every outcome that is asked for is one for some rule. -/
theorem mem_askUntil {selector : Selector} {rules : List Rule} : ∀ {index outcomes},
    (inquiry.askUntil selector index rules).result = .ok outcomes → outcome ∈ outcomes →
      ∃ place, outcome.rule ∈ rules ∧ (inquiry.ask place outcome.rule).result = .ok outcome := by
  induction rules with
  | nil =>
    intro index outcomes asked member
    obtain rfl : [] = outcomes := Except.ok.inj asked
    cases member
  | cons rule rest ih =>
    -- The places count on, so the index stays quantified over.
    intro index outcomes asked member
    obtain ⟨first, askedFirst, following⟩ := Logged.bind_ok.mp asked
    obtain ⟨own, _⟩ := ask_effect askedFirst
    have front : first.rule ∈ rule :: rest ∧ (inquiry.ask index first.rule).result = .ok first :=
      ⟨own ▸ List.mem_cons_self .., own ▸ askedFirst⟩
    split at following
    · -- The outcome settles the verdict, and no other follows.
      obtain rfl : [first] = outcomes := Except.ok.inj following
      obtain rfl := List.mem_singleton.mp member
      exact ⟨index, front⟩
    · -- The verdict is open.
      obtain ⟨more, askedMore, whole⟩ := Logged.bind_ok.mp following
      obtain rfl : first :: more = outcomes := Except.ok.inj whole
      rcases List.mem_cons.mp member with rfl | later
      · -- The outcome is the first one.
        exact ⟨index, front⟩
      · -- The outcome is a later one.
        obtain ⟨place, among, askedLater⟩ := ih askedMore later
        exact ⟨place, List.mem_cons_of_mem _ among, askedLater⟩

end Inquiry

/-! ### Decisions -/

namespace Enforcer

variable {enforcer : Enforcer} {context : Context} {expression : String} {request : List Value}
    {inquiry : Inquiry}

/-- Every outcome of a decision is one that its inquiry has for the rule of the outcome. -/
theorem mem_outcomes {decision : Decision} {outcome : Outcome}
    (posed : enforcer.inquiry context expression request = .ok inquiry)
    (decided : (enforcer.decide context expression request).result = .ok decision)
    (member : outcome ∈ decision.outcomes) :
    ∃ index, (inquiry.ask index outcome.rule).result = .ok outcome := by
  rcases decide_cases decided with ⟨_, rfl⟩ | ⟨_, other, outcomes, asks, asked, rfl⟩
  · -- An enforcer that is switched off has no outcomes.
    cases member
  · -- The outcomes are those of the rows that were asked.
    obtain rfl := Except.ok.inj (posed.symm.trans asks)
    obtain ⟨index, _, own⟩ := Inquiry.mem_askUntil asked member
    exact ⟨index, own⟩

/-- For any rule the field of the effect has a value in the matcher of a decision. The outcome for
the rule, if it has no error, has the effect that this value names, unless the rule ends before the
declared field of the effect: then the value is empty and names no effect, and the outcome has the
effect that allows. An outcome with an error is not matched. All outcomes of a decision are such
outcomes. -/
theorem decide_effects (named : context.ptype.toList.head? = some 'p')
    (posed : enforcer.inquiry context expression request = .ok inquiry) (rule : Rule) :
    ∃ value, FieldRef.resolve (inquiry.environment rule).scope (.effect context.ptype) = .ok value ∧
      (∀ index outcome, (inquiry.ask index rule).result = .ok outcome →
        (outcome.error = none → (outcome.effect = Effect.ofValue value ↔
          ¬ rule.EndsBeforeEffect (enforcer.model.policyFields context.ptype))) ∧
        (rule.EndsBeforeEffect (enforcer.model.policyFields context.ptype) →
          value = .text "" ∧ Effect.ofValue value = .indeterminate ∧ outcome.effect = .allow) ∧
        (outcome.error ≠ none → outcome.isMatched = false)) ∧
      ∀ decision outcome, (enforcer.decide context expression request).result = .ok decision →
        outcome ∈ decision.outcomes → outcome.rule = rule →
          ∃ index, (inquiry.ask index rule).result = .ok outcome := by
  obtain ⟨sameContext, _⟩ := inquiry_eq_ok posed
  have fields : inquiry.policyFields = enforcer.model.policyFields context.ptype := by
    obtain ⟨_, _, rfl⟩ := inquiry_made_of posed
    rfl
  obtain ⟨value, resolved, asks⟩ := inquiry.resolve_ask_effect (sameContext ▸ named) rule
  rw [sameContext] at resolved
  rw [fields] at asks
  exact ⟨value, resolved, asks, fun decision outcome decided member own =>
    own ▸ mem_outcomes posed decided member⟩

/-- In a rule that denies, a matcher reads the effect that the outcome has. -/
theorem decide_effects_graded :
    Context.plain.ptype.toList.head? = some 'p' ∧
      graded.inquiry .plain "" [.text "data"] = .ok gradedInquiry ∧
      ∃ value,
        FieldRef.resolve (gradedInquiry.environment ["alice", "data", "deny"]).scope
          (.effect "p") = .ok value ∧
        ∃ outcome, (gradedInquiry.ask 1 ["alice", "data", "deny"]).result = .ok outcome ∧
          outcome.effect = Effect.ofValue value := by
  have named : Context.plain.ptype.toList.head? = some 'p' := by decide
  have posed : graded.inquiry .plain "" [.text "data"] = .ok gradedInquiry := rfl
  obtain ⟨value, resolved, asks, _⟩ := decide_effects named posed ["alice", "data", "deny"]
  have answered : (gradedInquiry.ask 1 ["alice", "data", "deny"]).result.toOption.map (·.error) =
      some none := by
    decide +kernel
  obtain ⟨outcome, asked, errorless⟩ := toOption_map_eq_some.mp answered
  have reaches : ¬ Rule.EndsBeforeEffect (graded.model.policyFields "p")
      ["alice", "data", "deny"] := by
    rintro ⟨place, found, short⟩
    obtain rfl : 2 = place := Option.some.inj (show some 2 = some place from found)
    exact absurd short (by decide)
  exact ⟨named, posed, value, resolved, outcome, asked,
    ((asks 1 outcome asked).1 errorless).mpr reaches⟩

/-- A rule that ends before its effect allows a request, although a matcher reads an empty effect in
it. -/
theorem short_rule_allows : ∃ decision outcome,
    (decide { graded with store := ⟨[("p", [["alice", "data"]])]⟩ } .plain ""
      [.text "data"]).result =
      .ok decision ∧
    decision.isAllowed = true ∧ decision.outcomes = [outcome] ∧
    outcome.rule = ["alice", "data"] ∧ outcome.isMatched = true ∧ outcome.effect = .allow ∧
    FieldRef.resolve (gradedInquiry.environment ["alice", "data"]).scope (.effect "p") =
      .ok (.text "") ∧
    Effect.ofValue (.text "") = .indeterminate := by
  have decided : (decide { graded with store := ⟨[("p", [["alice", "data"]])]⟩ } .plain ""
      [.text "data"]).result.toOption.map
      (fun decision => (decision.isAllowed, decision.outcomes)) =
      some (true, [⟨0, ["alice", "data"], true, .allow, "alice", none⟩]) := by decide +kernel
  obtain ⟨decision, made, facts⟩ := toOption_map_eq_some.mp decided
  obtain ⟨allowed, outcomes⟩ := Prod.mk.inj facts
  exact ⟨decision, _, made, allowed, outcomes, rfl, rfl, rfl, rfl, Inquiry.ofText_empty⟩

end Enforcer

end AccessControl
