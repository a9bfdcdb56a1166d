import AccessControl.Proofs.Decision.Matched
import AccessControl.Proofs.Decision.Unruled
import AccessControl.Proofs.Matcher.Dependence

/-! Decisions whose matcher does not read the rules: without effects of their own, the stored rules
make no difference to them, and neither does it whether there are any. -/

namespace AccessControl

/-! ### Rules that all match or all do not -/

/-- Where everything allows, the first effect that decides is to allow. -/
theorem Evidence.firstDecisive_of_allowing {given : List Evidence} (some_given : given ≠ [])
    (allowing : ∀ own ∈ given, own.effect = .allow) : firstDecisive given = some .allow := by
  -- To allow is to decide, so the search ends with the first piece of evidence.
  obtain ⟨first, rest, rfl⟩ := List.exists_cons_of_ne_nil some_given
  have allows : first.effect = .allow := allowing first (List.mem_cons_self ..)
  simp [firstDecisive, allows, Effect.isDecisive]

/-- Outcomes of which some are matched, and all of these allow, have the verdict to allow, whatever
the selector. -/
theorem Selector.combine_of_allowing (selector : Selector) {outcomes : List Outcome}
    (some_matched : evidence outcomes ≠ [])
    (allowing : ∀ own ∈ evidence outcomes, own.effect = .allow) :
    selector.combine outcomes = .allow := by
  obtain ⟨own, member⟩ := List.exists_mem_of_ne_nil _ some_matched
  have allows : anyEffect .allow (outcomes.filter (·.isMatched)) = true := by
    rw [Evidence.anyEffect_eq, List.any_eq_true]
    exact ⟨own, member, beq_iff_eq.mpr (allowing own member)⟩
  -- There is no outcome that denies.
  have denies : anyEffect .deny (outcomes.filter (·.isMatched)) = false := by
    rw [Evidence.anyEffect_eq, List.any_eq_false]
    intro other listed
    simp [allowing other listed]
  have first : firstDecisive (outcomes.filter (·.isMatched)) = some .allow := by
    rw [Evidence.firstDecisive_eq]
    exact Evidence.firstDecisive_of_allowing some_matched allowing
  -- Each subject has something matched, and so it allows as well.
  have verdicts : ∀ verdict ∈ subjectVerdicts (outcomes.filter (·.isMatched)),
      verdict = some .allow := by
    rw [Evidence.subjectVerdicts_eq]
    intro verdict listed
    obtain ⟨subject, inside, rfl⟩ := List.mem_map.mp listed
    refine Evidence.firstDecisive_of_allowing ?_ fun other kept =>
      allowing other (List.mem_filter.mp kept).1
    exact List.ne_nil_of_mem (List.mem_filter.mpr ⟨inside, by simp⟩)
  cases selector with
  | someAllow => simp [combine, allows]
  | noDeny => simp [combine, denies]
  | allowAndNotDeny => simp [combine, allows, denies]
  | priority => simp [combine, first]
  | subjectPriority =>
    -- A subject that denies would have a verdict other than the one all have.
    have noDenial : some .deny ∉ subjectVerdicts (outcomes.filter (·.isMatched)) :=
      fun listed => by simpa using verdicts _ listed
    have permits : some .allow ∈ subjectVerdicts (outcomes.filter (·.isMatched)) := by
      have spoken : subjectVerdicts (outcomes.filter (·.isMatched)) ≠ [] := by
        rw [Evidence.subjectVerdicts_eq]
        exact fun none => some_matched (List.map_eq_nil_iff.mp none)
      obtain ⟨verdict, listed⟩ := List.exists_mem_of_ne_nil _ spoken
      exact verdicts verdict listed ▸ listed
    simp [combine, noDenial, permits]

namespace Inquiry

variable {inquiry : Inquiry}

/-- A matcher that does not read the rules says the same of each rule as of an empty one. -/
theorem holds_unread (unread : ¬ inquiry.matcher.Reads inquiry.context.ptype) (rule : Rule) :
    inquiry.matcher.holds (inquiry.environment rule) =
      inquiry.matcher.holds (inquiry.environment []) := by
  apply Matcher.holds_congr
  refine ⟨rfl, fun _ _ => rfl, fun schema read => ?_⟩
  -- The frames differ under the name of the rules alone.
  have other : schema ≠ inquiry.context.ptype :=
    fun same => unread (same ▸ Matcher.mem_schemas_iff_reads.mp read)
  simp only [environment, Scope.ofRow, lookupKey_insertKey_of_ne other]

/-- A matcher that does not read the rules has at least one row, which may be the empty one. -/
theorem rows_ne_nil (unread : ¬ inquiry.matcher.Reads inquiry.context.ptype) (rules : List Rule) :
    inquiry.rows rules ≠ [] := by
  have absent : inquiry.context.ptype ∉ inquiry.matcher.schemas :=
    fun member => unread (Matcher.mem_schemas_iff_reads.mp member)
  cases rules <;> simp [rows, absent]

/-- Rules without a field for their effect allow. -/
theorem effectOf_of_effectless (effectless : "eft" ∉ inquiry.policyFields) (rule : Rule) :
    inquiry.effectOf rule = .allow := by
  have absent : inquiry.position? "eft" = none := by
    rw [position?, List.findIdx?_eq_none_iff]
    intro field declared
    simpa using fun same : field = "eft" => effectless (same ▸ declared)
  rw [effectOf, absent]

variable (selector : Selector) (rules : List Rule)

/-- Where the matcher does not read the rules and no rule has an effect of its own, the verdict is
to allow if the matcher holds, and otherwise what the selector gives for no outcomes. -/
theorem decide_contained (unread : ¬ inquiry.matcher.Reads inquiry.context.ptype)
    (effectless : "eft" ∉ inquiry.policyFields) (contained : inquiry.Contains []) :
    ∃ decision, (inquiry.decide selector rules).result = .ok decision ∧
      decision.isAllowed = (decision.verdict == .allow) ∧
      decision.verdict = if inquiry.matchesRule [] then .allow else selector.combine [] := by
  -- Each row is evaluated as the empty rule is.
  have each : ∀ rule ∈ inquiry.rows rules, inquiry.Contains rule := by
    intro rule _ error failed
    exact contained error (inquiry.holds_unread unread rule ▸ failed)
  obtain ⟨decision, all, decided, asked, verdict, allowed⟩ := decide_answers selector each
  have told := askAll_evidence _ _ _ asked
  have matchesAlike : inquiry.matchesRule = fun _ => inquiry.matchesRule [] := by
    funext rule
    simp only [matchesRule, inquiry.holds_unread unread rule]
  refine ⟨decision, decided, allowed, ?_⟩
  rw [matchesAlike] at told
  rw [verdict]
  cases whole : inquiry.matchesRule [] with
  | true =>
    -- All rows match, and each of them allows.
    simp only [whole, List.filter_true] at told
    refine Selector.combine_of_allowing selector ?_ ?_
    · rw [told]
      exact fun none => inquiry.rows_ne_nil unread rules (List.map_eq_nil_iff.mp none)
    · rw [told]
      intro own member
      obtain ⟨rule, _, rfl⟩ := List.mem_map.mp member
      exact inquiry.effectOf_of_effectless effectless rule
  | false =>
    -- No row matches, so the selector combines what it combines of nothing.
    simp only [whole, List.filter_false, List.map_nil] at told
    exact Selector.combine_congr selector told

/-- Where the matcher does not read the rules, an error that is not one of the matcher is that of
the decision. -/
theorem decide_uncontained (unread : ¬ inquiry.matcher.Reads inquiry.context.ptype) {error : Error}
    (failed : inquiry.matcher.holds (inquiry.environment []) = .error error)
    (foreign : error.ofMatcher = false) :
    (inquiry.decide selector rules).result = .error error := by
  -- It comes of the first row, and there is one.
  obtain ⟨rule, rest, first⟩ := List.exists_cons_of_ne_nil (inquiry.rows_ne_nil unread rules)
  have asked : (inquiry.ask 0 rule).result = .error error := by
    simp [ask, inquiry.holds_unread unread rule, failed, foreign]
  simp [decide, first, askUntil, asked]

/-- Where the matcher does not read the rules and no rule has an effect of its own, all rules have
the same verdict, or fail with the same error. -/
theorem decide_verdict_unread (unread : ¬ inquiry.matcher.Reads inquiry.context.ptype)
    (effectless : "eft" ∉ inquiry.policyFields) (others : List Rule) :
    (inquiry.decide selector rules).result.map
      (fun decision => (decision.isAllowed, decision.verdict)) =
      (inquiry.decide selector others).result.map
        fun decision => (decision.isAllowed, decision.verdict) := by
  -- The empty rule stands for all others, so whether an error gets out is asked of it alone.
  by_cases contained : inquiry.Contains []
  · obtain ⟨decision, decided, allowed, verdict⟩ :=
      decide_contained selector rules unread effectless contained
    obtain ⟨other, decidedOther, allowedOther, verdictOther⟩ :=
      decide_contained selector others unread effectless contained
    simp only [decided, decidedOther, Except.map, allowed, allowedOther, verdict, verdictOther]
  · -- An error that gets out of the empty rule gets out of any row.
    simp only [Contains, not_forall, Bool.not_eq_true] at contained
    obtain ⟨error, failed, foreign⟩ := contained
    rw [decide_uncontained selector rules unread failed foreign,
      decide_uncontained selector others unread failed foreign]

end Inquiry

/-! ### Decisions -/

namespace Enforcer

section

variable {enforcer : Enforcer} {context : Context} {expression : String} {request : List Value}

/-- If the matcher does not read the schema of the rules, and this has no field for an effect, a
request has the same decision, or fails with the same error, whatever rules are stored and whether
or not there are any. -/
theorem decide_unread {store : Store}
    (unread : ∀ matcher, enforcer.matcherFor context expression = .ok matcher →
      ¬ matcher.Reads context.ptype)
    (effectless : "eft" ∉ enforcer.model.policyFields context.ptype) :
    (decide { enforcer with store := store } context expression request).result.map
        (fun decision => (decision.isAllowed, decision.verdict)) =
      (enforcer.decide context expression request).result.map
        fun decision => (decision.isAllowed, decision.verdict) := by
  apply decide_alike fun decision => (decision.isAllowed, decision.verdict)
  intro inquiry posed
  obtain ⟨matcher, chosen, rfl⟩ := inquiry_made_of posed
  exact Inquiry.decide_verdict_unread _ _ (unread matcher chosen) effectless _

end

/-- The subject is the owner of the object. -/
def ownership : Matcher where
  expression := "r.sub == r.obj.owner"
  clauses :=
    [.equation (.plain (.field ⟨"r", "sub", []⟩)) (.plain (.field ⟨"r", "obj", ["owner"]⟩)) false]

/-- Whoever owns a thing may have it, and no rule is asked about it. -/
def owned : Enforcer where
  config := .default
  enabled := .flag true
  model :=
    ⟨[("r", ["sub", "obj"])], [("p", ["sub", "obj"])], [], [("e", Selector.priority.text)],
      [("m", "r.sub == r.obj.owner")]⟩
  matchers := [("m", ownership)]
  store := .empty
  functions := .empty
  roster := .empty
  evaluator := ⟨⟨[]⟩, []⟩
  warned := []

/-- An owner is allowed with rules about others as without rules, and nobody else is. -/
theorem decide_unread_owned :
    owned.matcherFor .plain "" = .ok ownership ∧ ¬ ownership.Reads "p" ∧
      "eft" ∉ owned.model.policyFields "p" ∧ owned.store.rules "p" = [] ∧
      ∀ name ∈ ["alice", "bob"], ∃ decision,
        (decide { owned with store := ⟨[("p", [["bob", "data"], ["carol"]])]⟩ } .plain ""
          [.text name, .dict [("owner", .text "alice")]]).result = .ok decision ∧
        (decision.isAllowed = true ↔ name = "alice") := by
  have requestOnly : ¬ ownership.Reads "p" := by
    rw [← Matcher.mem_schemas_iff_reads, Matcher.mem_schemas]
    rintro ⟨clause, member, inside⟩
    obtain rfl := List.mem_singleton.mp member
    revert inside
    decide
  have unread : ∀ matcher, owned.matcherFor .plain "" = .ok matcher → ¬ matcher.Reads "p" :=
    fun matcher chosen => Except.ok.inj chosen ▸ requestOnly
  have effectless : "eft" ∉ owned.model.policyFields "p" := by decide
  refine ⟨rfl, requestOnly, effectless, rfl, fun name asked => ?_⟩
  have same := @decide_unread owned .plain "" [.text name, .dict [("owner", .text "alice")]]
    ⟨[("p", [["bob", "data"], ["carol"]])]⟩ unread effectless
  -- Without rules the decision is computed.
  have alone :
      (owned.decide .plain "" [.text name, .dict [("owner", .text "alice")]]).result.toOption.map
      (·.isAllowed) = some (name == "alice") := by
    rcases List.mem_cons.mp asked with rfl | asked
    · decide +kernel
    · obtain rfl := List.mem_singleton.mp asked
      decide +kernel
  obtain ⟨decision, decided, allowed⟩ := toOption_map_eq_some.mp alone
  rw [decided] at same
  cases decidedOther :
      (decide { owned with store := ⟨[("p", [["bob", "data"], ["carol"]])]⟩ } .plain ""
      [.text name, .dict [("owner", .text "alice")]]).result with
  | error error =>
    rw [decidedOther] at same
    cases same
  | ok other =>
    rw [decidedOther] at same
    have equal : other.isAllowed = decision.isAllowed := congrArg Prod.fst (Except.ok.inj same)
    refine ⟨other, rfl, ?_⟩
    rw [equal, allowed, beq_iff_eq]

end Enforcer

end AccessControl
