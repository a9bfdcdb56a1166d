import AccessControl.Proofs.Decision.Matched
import AccessControl.Proofs.Decision.Unruled

/-! Decisions rest on the rules that match, in their order: rules for which the matcher cannot be
evaluated are as good as not stored. -/

namespace AccessControl

/-! ### What decides among outcomes -/

/-- What is told of a decision: whether it allows, its verdict and the rule that it rests on. -/
def Decision.account (decision : Decision) : Bool × Effect × Option Rule :=
  (decision.isAllowed, decision.verdict, decision.decidedBy)

/-- Whatever stops passes the test. Of the items up to the first one that stops, those that pass are
then the passing ones up to the first that stops. -/
theorem filter_take_findIdx {α : Type} {passes stops : α → Bool}
    (passing : ∀ item, stops item = true → passes item = true) (items : List α) :
    (items.take (items.findIdx stops + 1)).filter passes =
      (items.filter passes).take ((items.filter passes).findIdx stops + 1) := by
  -- An item that does not pass does not stop either, so leaving it out moves the end by one place.
  induction items with
  | nil => rfl
  | cons item rest ih =>
    by_cases stop : stops item = true
    · -- The first item stops, so both lists end with it.
      simp [List.findIdx_cons, stop, passing item stop]
    · by_cases pass : passes item = true <;> simp [List.findIdx_cons, stop, pass, ih]

/-- The rule that a verdict rests on is found among the matched outcomes. -/
theorem Decision.decidingRule_matchedAlone (verdict : Effect) (outcomes : List Outcome) :
    decidingRule verdict (matchedAlone outcomes) = decidingRule verdict outcomes := by
  have ruleKept : (fun outcome : Outcome => outcome.rule) ∘ Outcome.unplaced =
      fun outcome => outcome.rule := rfl
  -- The search asks whether an outcome is matched, and does not look at its place.
  have sameTest : (fun outcome : Outcome => decide (outcome.isMatched = true ∧
      ((fun outcome : Outcome => outcome.isMatched && outcome.effect == verdict &&
        !outcome.rule.isEmpty) ∘ Outcome.unplaced) outcome = true)) =
      fun outcome => outcome.isMatched && outcome.effect == verdict && !outcome.rule.isEmpty := by
    funext outcome
    rw [Bool.eq_iff_iff]
    simp [Outcome.unplaced, and_assoc]
  unfold decidingRule matchedAlone
  split
  · rw [List.find?_map, List.find?_filter, Option.map_map, ruleKept, sameTest]
  · rfl

/-- The account of a decision depends on the matched outcomes, and not on their places. -/
theorem Decision.account_congr (selector : Selector) (ptype : String) (request : List Value)
    {outcomes others : List Outcome} (same : matchedAlone outcomes = matchedAlone others) :
    (ofOutcomes selector ptype request outcomes).account =
      (ofOutcomes selector ptype request others).account := by
  -- The verdict comes first, as the rule that is looked for is one with its effect.
  have verdict : selector.combine outcomes = selector.combine others := by
    apply selector.combine_congr
    rw [evidence_eq_map, evidence_eq_map, same]
  have decidedBy : decidingRule (selector.combine others) outcomes =
      decidingRule (selector.combine others) others := by
    rw [← decidingRule_matchedAlone, same, decidingRule_matchedAlone]
  simp only [account, ofOutcomes, verdict, decidedBy]

/-- The matched outcomes up to the first one that settles the verdict are found among the matched
ones. -/
theorem matchedAlone_take (selector : Selector) (outcomes : List Outcome) :
    matchedAlone (outcomes.take (outcomes.findIdx selector.settles + 1)) =
      (matchedAlone outcomes).take ((matchedAlone outcomes).findIdx selector.settles + 1) := by
  -- Only a matched outcome settles a verdict, and it does so wherever it stands.
  have passing : ∀ outcome, selector.settles outcome = true → outcome.isMatched = true :=
    fun _ settled => (Bool.and_eq_true_iff.mp settled).1
  have unmoved : selector.settles ∘ Outcome.unplaced = selector.settles := rfl
  unfold matchedAlone
  rw [filter_take_findIdx passing, List.map_take, List.findIdx_map, unmoved]

/-! ### Decisions over the rules that match -/

namespace Inquiry

variable {inquiry : Inquiry}

/-- If the same rules match in the same order, decisions have the same account. -/
theorem decide_sameMatches (selector : Selector) {rules others : List Rule}
    (contained : ∀ rule ∈ inquiry.rows rules, inquiry.Contains rule)
    (containedOther : ∀ rule ∈ inquiry.rows others, inquiry.Contains rule)
    (same : (inquiry.rows rules).filter inquiry.matchesRule =
      (inquiry.rows others).filter inquiry.matchesRule) :
    ∃ decision other, (inquiry.decide selector rules).result = .ok decision ∧
      (inquiry.decide selector others).result = .ok other ∧ other.account = decision.account := by
  obtain ⟨all, asked, _⟩ := askAll_contained _ 0 contained
  obtain ⟨more, askedOther, _⟩ := askAll_contained _ 0 containedOther
  refine ⟨_, _, decide_result asked selector, decide_result askedOther selector, ?_⟩
  -- What is asked before the verdict is settled has the same matched outcomes, at other places.
  apply Decision.account_congr
  rw [matchedAlone_take, matchedAlone_take, askAll_matchedAlone _ _ _ asked,
    askAll_matchedAlone _ _ _ askedOther, same]

/-- An error of the matcher comes of evaluating it for the rule. -/
def failsFor (inquiry : Inquiry) (rule : Rule) : Bool :=
  match inquiry.matcher.holds (inquiry.environment rule) with
  | .ok _ => false
  | .error error => error.ofMatcher

/-- A rule for which the matcher fails does not match. -/
theorem matchesRule_of_failsFor {rule : Rule} (fails : inquiry.failsFor rule = true) :
    inquiry.matchesRule rule = false := by
  cases evaluated : inquiry.matcher.holds (inquiry.environment rule) with
  | ok isMatched => simp [failsFor, evaluated] at fails
  | error error => simp [matchesRule, evaluated]

/-- The rules that match are among those for which the matcher does not fail. -/
theorem filter_matchesRule_evaluated (rules : List Rule) :
    (rules.filter fun rule => !inquiry.failsFor rule).filter inquiry.matchesRule =
      rules.filter inquiry.matchesRule := by
  -- A rule that is deleted was not one that matches.
  rw [List.filter_filter]
  apply List.filter_congr
  intro rule _
  cases fails : inquiry.failsFor rule with
  | true => rw [matchesRule_of_failsFor fails, Bool.false_and]
  | false => simp

end Inquiry

namespace Enforcer

section

variable {enforcer : Enforcer} {context : Context} {expression : String} {request : List Value}

/-- If the matcher reads the schema of the rules, and only errors of the matcher come of evaluating
it for them, a request has the same verdict from the same rule after all rules have been deleted for
which the matcher fails. A request that fits its schema gets a decision. -/
theorem decide_evaluated {store : Store}
    (reads : ∀ inquiry, enforcer.inquiry context expression request = .ok inquiry →
      inquiry.matcher.Reads context.ptype)
    (contained : ∀ inquiry, enforcer.inquiry context expression request = .ok inquiry →
      ∀ rule ∈ enforcer.store.rules context.ptype, inquiry.Contains rule)
    (deleted : ∀ inquiry, enforcer.inquiry context expression request = .ok inquiry →
      store.rules context.ptype =
        (enforcer.store.rules context.ptype).filter fun rule => !inquiry.failsFor rule) :
    (decide { enforcer with store := store } context expression request).result.map
      Decision.account =
      (enforcer.decide context expression request).result.map Decision.account ∧
    ∀ inquiry, enforcer.inquiry context expression request = .ok inquiry →
      ∃ decision, (enforcer.decide context expression request).result = .ok decision := by
  have asked : ∀ inquiry, enforcer.inquiry context expression request = .ok inquiry →
      ∃ decision other,
        (inquiry.decide (enforcer.selector context)
          (enforcer.store.rules context.ptype)).result = .ok decision ∧
        (inquiry.decide (enforcer.selector context) (store.rules context.ptype)).result =
          .ok other ∧
        other.account = decision.account := by
    intro inquiry posed
    have rows := rows_of_reads posed (reads inquiry posed)
    have each := contained inquiry posed
    -- What is left of the rules is contained as all of them are.
    have eachLeft : ∀ rule ∈ store.rules context.ptype, inquiry.Contains rule := by
      intro rule member
      rw [deleted inquiry posed] at member
      exact each rule (List.mem_filter.mp member).1
    apply Inquiry.decide_sameMatches
    · rwa [rows]
    · rwa [rows]
    · rw [rows, rows, deleted inquiry posed, Inquiry.filter_matchesRule_evaluated]
  constructor
  · apply decide_alike
    intro inquiry posed
    obtain ⟨decision, other, decided, decidedOther, account⟩ := asked inquiry posed
    rw [decided, decidedOther]
    exact congrArg Except.ok account
  · -- An enforcer that is switched off has a decision without asking.
    intro inquiry posed
    by_cases enabled : enforcer.enabled.isTrue = true
    · obtain ⟨decision, _, decided, _⟩ := asked inquiry posed
      exact ⟨decision, (decide_result enabled posed).trans decided⟩
    · exact ⟨.unasked request, by simp [decide, enabled]⟩

end

/-- The store of seals without the broken one. -/
def wholeSeals : Store :=
  ⟨[("p", [["whole"], ["spare"]])]⟩

/-- Without the broken seal alice is allowed by the same seal as with it. -/
theorem decide_evaluated_sealed :
    sealed.inquiry .plain "" [.text "alice"] = .ok sealedInquiry ∧
      sealedInquiry.matcher.Reads "p" ∧
      (∀ rule ∈ sealed.store.rules "p", sealedInquiry.Contains rule) ∧
      wholeSeals.rules "p" = (sealed.store.rules "p").filter
        (fun rule => !sealedInquiry.failsFor rule) ∧
      sealedInquiry.failsFor ["broken"] = true ∧
      ∃ decision other,
        (sealed.decide .plain "" [.text "alice"]).result = .ok decision ∧
        (decide { sealed with store := wholeSeals } .plain "" [.text "alice"]).result = .ok other ∧
        decision.account = (true, .allow, some ["whole"]) ∧ other.account = decision.account := by
  have posed : sealed.inquiry .plain "" [.text "alice"] = .ok sealedInquiry := rfl
  have only {inquiry : Inquiry} (asked : sealed.inquiry .plain "" [.text "alice"] = .ok inquiry) :
      inquiry = sealedInquiry := (Except.ok.inj (posed.symm.trans asked)).symm
  have reads : sealedInquiry.matcher.Reads "p" :=
    ⟨_, List.mem_singleton_self _, ⟨"p", "seal", []⟩,
      .call (.argument (List.mem_singleton_self _)), rfl⟩
  have rows := sealedInquiry.rows_eq (Matcher.mem_schemas_iff_reads.mpr reads)
    (sealed.store.rules "p")
  have contained : ∀ rule ∈ sealed.store.rules "p", sealedInquiry.Contains rule :=
    fun rule member => sealedInquiry_contains rule (rows.symm ▸ member)
  have deleted : wholeSeals.rules "p" =
      (sealed.store.rules "p").filter fun rule => !sealedInquiry.failsFor rule := rfl
  obtain ⟨same, decides⟩ := @decide_evaluated sealed .plain "" [.text "alice"] wholeSeals
    (fun _ asked => only asked ▸ reads) (fun _ asked => only asked ▸ contained)
    (fun _ asked => only asked ▸ deleted)
  obtain ⟨decision, decided⟩ := decides sealedInquiry posed
  have account : (sealed.decide .plain "" [.text "alice"]).result.toOption.map Decision.account =
      some (true, .allow, some ["whole"]) := by decide +kernel
  rw [decided] at account same
  cases decidedOther : (decide { sealed with store := wholeSeals } .plain "" [.text "alice"]).result
    with
  | error error =>
    rw [decidedOther] at same
    cases same
  | ok other =>
    rw [decidedOther] at same
    exact ⟨posed, reads, contained, deleted, rfl, decision, other, decided, rfl,
      Option.some.inj account, Except.ok.inj same⟩

end Enforcer

end AccessControl
