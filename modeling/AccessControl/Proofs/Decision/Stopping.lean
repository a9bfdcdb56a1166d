import AccessControl.Enforcer.Decide
import AccessControl.Proofs.Journal

/-! Stopping at the first outcome that settles the verdict gives the verdict of all outcomes. -/

namespace AccessControl

/-! ### Verdicts -/

namespace Selector

/-- After an outcome that settles the verdict no further outcome counts. -/
theorem combine_settled {selector : Selector} {outcome : Outcome}
    (settled : selector.settles outcome = true) (before after : List Outcome) :
    selector.combine (before ++ outcome :: after) = selector.combine (before ++ [outcome]) := by
  -- What settles a verdict is an outcome of the effect that the selector looks for first.
  cases selector with
  | someAllow =>
    simp only [settles, Bool.and_eq_true, beq_iff_eq] at settled
    simp [combine, anyEffect, settled]
  | noDeny =>
    simp only [settles, Bool.and_eq_true, beq_iff_eq] at settled
    simp [combine, anyEffect, settled]
  | allowAndNotDeny =>
    simp only [settles, Bool.and_eq_true, beq_iff_eq] at settled
    simp [combine, anyEffect, settled]
  | priority =>
    simp only [settles, Bool.and_eq_true] at settled
    simp [combine, firstDecisive, settled, List.find?_append]
  | subjectPriority =>
    -- No outcome settles the verdict here.
    simp [settles] at settled

/-- The outcomes up to the first one that settles the verdict give the verdict of all. -/
theorem combine_take (selector : Selector) (outcomes : List Outcome) :
    selector.combine (outcomes.take (outcomes.findIdx selector.settles + 1)) =
      selector.combine outcomes := by
  by_cases inside : outcomes.findIdx selector.settles < outcomes.length
  · -- The last outcome that is taken settles the verdict, so those behind it do not count.
    have settled := List.findIdx_getElem (w := inside)
    rw [List.take_succ_eq_append_getElem inside, ← combine_settled settled,
      ← List.drop_eq_getElem_cons inside, List.take_append_drop]
  · -- Without an outcome that settles the verdict all of them are taken.
    rw [List.take_of_length_le (by omega)]

end Selector

/-! ### Rows -/

namespace Inquiry

/-- The outcomes for all rules, whether or not one of them settles the verdict. -/
def askAll (inquiry : Inquiry) : Nat → List Rule → Logged (List Outcome)
  | _, [] => .pure []
  | index, rule :: rest => do
    let outcome ← inquiry.ask index rule
    let more ← askAll inquiry (index + 1) rest
    return outcome :: more

/-- Nothing but an error of the matcher comes of evaluating it for a rule. -/
def Contains (inquiry : Inquiry) (rule : Rule) : Prop :=
  ∀ error, inquiry.matcher.holds (inquiry.environment rule) = .error error → error.ofMatcher = true

variable {inquiry : Inquiry}

/-- A rule is contained if evaluating the matcher for it has a result. -/
theorem contains_of_isOk {rule : Rule}
    (answers : (inquiry.matcher.holds (inquiry.environment rule)).isOk = true) :
    inquiry.Contains rule := by
  -- There is no error at all.
  intro error failed
  rw [failed] at answers
  cases answers

/-- A contained rule has an outcome, which tells of its place and of itself. -/
theorem ask_contained {rule : Rule} (contained : inquiry.Contains rule) (index : Nat) :
    ∃ outcome, (inquiry.ask index rule).result = .ok outcome ∧
      outcome.index = index ∧ outcome.rule = rule := by
  -- The place and the rule are in the outcome whether or not evaluating the matcher fails.
  cases evaluated : inquiry.matcher.holds (inquiry.environment rule) with
  | ok isMatched =>
    exact ⟨_, by simp only [ask, evaluated]; rfl, rfl, rfl⟩
  | error error =>
    -- The error is kept in the outcome instead of ending the inquiry.
    have ofMatcher := contained error evaluated
    exact ⟨_, by simp only [ask, evaluated, ofMatcher]; rfl, rfl, rfl⟩

/-- Contained rules all have outcomes, each of which tells of its place and of its rule. -/
theorem askAll_contained (rules : List Rule) : ∀ index, (∀ rule ∈ rules, inquiry.Contains rule) →
    ∃ all, (inquiry.askAll index rules).result = .ok all ∧
      all.map (fun outcome => (outcome.rule, outcome.index)) = rules.zipIdx index := by
  induction rules with
  | nil => exact fun _ _ => ⟨[], rfl, rfl⟩
  | cons rule rest ih =>
    -- The places count on from the first rule, so the index stays quantified over.
    intro index contained
    obtain ⟨outcome, asked, ownIndex, ownRule⟩ := ask_contained (contained rule (by simp)) index
    obtain ⟨all, askedAll, places⟩ :=
      ih (index + 1) fun rule member => contained rule (by simp [member])
    exact ⟨outcome :: all, by simp [askAll, asked, askedAll],
      by simp [places, ownIndex, ownRule]⟩

/-- If evaluation has a result for every rule, the outcomes are those of these results. -/
theorem askAll_of_holds {isMatched : Rule → Bool} (rules : List Rule) : ∀ index,
    (∀ rule ∈ rules, inquiry.matcher.holds (inquiry.environment rule) = .ok (isMatched rule)) →
      (inquiry.askAll index rules).result = .ok ((rules.zipIdx index).map fun (rule, index) =>
        ⟨index, rule, isMatched rule, inquiry.effectOf rule, inquiry.subjectOf rule, none⟩) := by
  induction rules with
  | nil => exact fun _ _ => rfl
  | cons rule rest ih =>
    intro index evaluated
    have asked : (inquiry.ask index rule).result =
        .ok ⟨index, rule, isMatched rule, inquiry.effectOf rule, inquiry.subjectOf rule, none⟩ := by
      simp [ask, evaluated rule (by simp)]
    simp [askAll, asked, ih (index + 1) fun rule member => evaluated rule (by simp [member])]

/-- Stopping early asks for the outcomes up to the first one that settles the verdict. -/
theorem askUntil_eq_take (selector : Selector) (rules : List Rule) : ∀ index all,
    (inquiry.askAll index rules).result = .ok all →
      (inquiry.askUntil selector index rules).result =
        .ok (all.take (all.findIdx selector.settles + 1)) := by
  induction rules with
  | nil =>
    intro index all asked
    obtain rfl : [] = all := Except.ok.inj asked
    rfl
  | cons rule rest ih =>
    intro index all asked
    obtain ⟨outcome, first, asked⟩ := Logged.bind_ok.mp asked
    obtain ⟨more, askedRest, asked⟩ := Logged.bind_ok.mp asked
    obtain rfl : outcome :: more = all := Except.ok.inj asked
    by_cases settled : selector.settles outcome = true
    · -- The first outcome settles the verdict and is the only one that is asked for.
      simp [askUntil, first, settled, List.findIdx_cons]
    · -- Otherwise the rest is asked for, and what settles the verdict there is one place further on.
      simp [askUntil, first, settled, ih _ _ askedRest, List.findIdx_cons]

/-- A decision is made of the outcomes up to the first one that settles the verdict. -/
theorem decide_result {rules : List Rule} {all : List Outcome}
    (asked : (inquiry.askAll 0 (inquiry.rows rules)).result = .ok all) (selector : Selector) :
    (inquiry.decide selector rules).result =
      .ok (Decision.ofOutcomes selector inquiry.context.ptype inquiry.request
        (all.take (all.findIdx selector.settles + 1))) := by
  simp [Inquiry.decide, askUntil_eq_take selector _ _ _ asked]

/-- If only errors of the matcher come of evaluating it for the rows, there is a decision, and its
verdict is that of the outcomes of all rows. -/
theorem decide_answers (selector : Selector) {rules : List Rule}
    (contained : ∀ rule ∈ inquiry.rows rules, inquiry.Contains rule) :
    ∃ decision all, (inquiry.decide selector rules).result = .ok decision ∧
      (inquiry.askAll 0 (inquiry.rows rules)).result = .ok all ∧
      decision.verdict = selector.combine all ∧
      decision.isAllowed = (decision.verdict == .allow) := by
  obtain ⟨all, asked, _⟩ := askAll_contained _ 0 contained
  exact ⟨_, all, decide_result asked selector, asked, Selector.combine_take selector all, rfl⟩

end Inquiry

/-! ### Decisions -/

namespace Enforcer

/-- An inquiry is made of the request, its schemas and the matcher that is chosen for it. -/
theorem inquiry_made_of {enforcer : Enforcer} {context : Context} {expression : String}
    {request : List Value} {inquiry : Inquiry}
    (posed : enforcer.inquiry context expression request = .ok inquiry) :
    ∃ matcher, enforcer.matcherFor context expression = .ok matcher ∧
      inquiry =
        { function? := enforcer.function?
          context, matcher, request
          requestFields := enforcer.model.requestFields context.rtype
          policyFields := enforcer.model.policyFields context.ptype
          host := enforcer.host } := by
  -- Only the last branch, behind all three checks, poses an inquiry.
  simp only [Enforcer.inquiry] at posed
  split at posed
  · cases posed
  split at posed
  · cases posed
  split at posed
  · cases posed
  obtain ⟨matcher, chosen, posed⟩ := bind_eq_ok.mp posed
  exact ⟨matcher, chosen, (Except.ok.inj posed).symm⟩

/-- An inquiry about a request keeps the context and the request. -/
theorem inquiry_eq_ok {enforcer : Enforcer} {context : Context} {expression : String}
    {request : List Value} {inquiry : Inquiry}
    (posed : enforcer.inquiry context expression request = .ok inquiry) :
    inquiry.context = context ∧ inquiry.request = request := by
  obtain ⟨_, _, rfl⟩ := inquiry_made_of posed
  exact ⟨rfl, rfl⟩

/-- An enforcer that is switched on decides a request as its inquiry does. -/
theorem decide_result {enforcer : Enforcer} {context : Context} {expression : String}
    {request : List Value} {inquiry : Inquiry} (enabled : enforcer.enabled.isTrue = true)
    (posed : enforcer.inquiry context expression request = .ok inquiry) :
    (enforcer.decide context expression request).result =
      (inquiry.decide (enforcer.selector context) (enforcer.store.rules context.ptype)).result := by
  -- The record of a decision follows it and changes nothing about it.
  simp only [Enforcer.decide, enabled, Bool.not_true, Bool.false_eq_true, if_false,
    Logged.result_bind, Logged.result_ofExcept, posed, ok_bind, Logged.result_note,
    Logged.result_pure]
  -- An inquiry that fails ends the decision with its error before the record.
  cases (inquiry.decide (enforcer.selector context) (enforcer.store.rules context.ptype)).result <;>
    rfl

/-- A decision is that of an enforcer that is switched off, or it is made of the outcomes that an
inquiry has for the rows until one of them settles the verdict. -/
theorem decide_cases {enforcer : Enforcer} {context : Context} {expression : String}
    {request : List Value}
    {decision : Decision}
    (decided : (enforcer.decide context expression request).result = .ok decision) :
    enforcer.enabled.isTrue = false ∧ decision = .unasked request ∨
      enforcer.enabled.isTrue = true ∧ ∃ inquiry outcomes,
        enforcer.inquiry context expression request = .ok inquiry ∧
        (inquiry.askUntil (enforcer.selector context) 0
          (inquiry.rows (enforcer.store.rules context.ptype))).result = .ok outcomes ∧
        decision = .ofOutcomes (enforcer.selector context) context.ptype request outcomes := by
  cases enabled : enforcer.enabled.isTrue with
  | false =>
    have off : (enforcer.decide context expression request).result = .ok (.unasked request) := by
      simp [decide, enabled]
    exact .inl ⟨rfl, (Except.ok.inj (off.symm.trans decided)).symm⟩
  | true =>
    cases posed : enforcer.inquiry context expression request with
    | error error => simp [decide, enabled, posed] at decided
    | ok inquiry =>
      rw [decide_result enabled posed] at decided
      obtain ⟨outcomes, asked, made⟩ := Logged.bind_ok.mp decided
      obtain ⟨sameContext, sameRequest⟩ := inquiry_eq_ok posed
      rw [sameContext, sameRequest] at made
      exact .inr ⟨rfl, inquiry, outcomes, rfl, asked, (Except.ok.inj made).symm⟩

/-- If every inquiry tells the same of the rules of two stores, so do the decisions over these
stores. -/
theorem decide_alike {α : Type} {enforcer : Enforcer} {store : Store} {context : Context}
    {expression : String} {request : List Value} (told : Decision → α)
    (alike : ∀ inquiry, enforcer.inquiry context expression request = .ok inquiry →
      (inquiry.decide (enforcer.selector context) (store.rules context.ptype)).result.map told =
        (inquiry.decide (enforcer.selector context) (enforcer.store.rules context.ptype)).result.map
          told) :
    (decide { enforcer with store := store } context expression request).result.map told =
      (enforcer.decide context expression request).result.map told := by
  by_cases enabled : enforcer.enabled.isTrue = true
  · cases posed : enforcer.inquiry context expression request with
    | error error =>
      -- The request fails before any rule is looked at.
      have posedOther : inquiry { enforcer with store := store } context expression request =
          .error error := posed
      simp [decide, enabled, posed, posedOther]
    | ok inquiry =>
      have answeredOther := @decide_result { enforcer with store := store } context
        expression request inquiry enabled posed
      rw [decide_result enabled posed, answeredOther]
      exact alike inquiry posed
  · -- An enforcer that is switched off does not look at its rules.
    simp [decide, enabled]

/-- A request is allowed if the verdict of the outcomes of all rows is to allow. -/
theorem enforce_result {enforcer : Enforcer} {request : List Value} {inquiry : Inquiry}
    {all : List Outcome} (enabled : enforcer.enabled.isTrue = true)
    (posed : enforcer.inquiry .plain "" request = .ok inquiry)
    (asked : (inquiry.askAll 0 (inquiry.rows (enforcer.store.rules Context.plain.ptype))).result =
      .ok all) :
    (enforcer.enforce request).result = .ok ((enforcer.selector .plain).combine all == .allow) := by
  have decided := (decide_result enabled posed).trans (Inquiry.decide_result asked _)
  have combined := Selector.combine_take (enforcer.selector .plain) all
  -- Which selector it is does not matter, and its text is not to be read for that.
  generalize enforcer.selector .plain = selector at decided combined ⊢
  simp [enforce, decided, Decision.ofOutcomes, combined]

/-- If only errors of the matcher come of evaluating it for the rows, the verdict of a decision is
that of the outcomes of all rows. The decision reports the outcomes up to the first one that settles
the verdict, and its trace tells of each of them and then of the verdict. -/
theorem decide_eq_askAll {enforcer : Enforcer} {context : Context} {expression : String}
    {request : List Value} {inquiry : Inquiry} (enabled : enforcer.enabled.isTrue = true)
    (posed : enforcer.inquiry context expression request = .ok inquiry)
    (contained : ∀ rule ∈ inquiry.rows (enforcer.store.rules context.ptype),
      inquiry.Contains rule) :
    ∃ decision all,
      (enforcer.decide context expression request).result = .ok decision ∧
      (inquiry.askAll 0 (inquiry.rows (enforcer.store.rules context.ptype))).result = .ok all ∧
      all.map (fun outcome => (outcome.rule, outcome.index)) =
        (inquiry.rows (enforcer.store.rules context.ptype)).zipIdx ∧
      decision.verdict = (enforcer.selector context).combine all ∧
      decision.outcomes = all.take (all.findIdx (enforcer.selector context).settles + 1) ∧
      decision.trace = decision.outcomes.map (Outcome.describe context.ptype) ++
        ["decision: " ++ decision.verdict.word] := by
  -- All rows have outcomes, although the decision asks for them only until the verdict is settled.
  obtain ⟨all, asked, places⟩ := Inquiry.askAll_contained _ 0 contained
  obtain ⟨sameContext, _⟩ := inquiry_eq_ok posed
  have decided := (decide_result enabled posed).trans (Inquiry.decide_result asked _)
  have combined := Selector.combine_take (enforcer.selector context) all
  generalize enforcer.selector context = selector at decided combined ⊢
  exact ⟨_, all, decided, asked, places, combined,
    rfl, by simp only [Decision.ofOutcomes, sameContext]⟩

/-- A check of seals that fails for a broken one. -/
def checkSeal : Callable where
  call arguments :=
    if allTexts? arguments == some ["broken"] then .error .crossedGroup else .ok (.flag true)

/-- Three rules, of which the check fails for the first and holds for the others. -/
def sealed : Enforcer where
  config := .default
  enabled := .flag true
  model :=
    ⟨[("r", ["sub"])], [("p", ["seal"])], [], [("e", Selector.someAllow.text)],
      [("m", "check(p.seal)")]⟩
  matchers := [("m", ⟨"check(p.seal)", [.call ⟨"check", [.field ⟨"p", "seal", []⟩]⟩]⟩)]
  store := ⟨[("p", [["broken"], ["whole"], ["spare"]])]⟩
  functions := .empty
  roster := .empty
  evaluator := ⟨⟨[("check", checkSeal)]⟩, []⟩
  warned := []

/-- What a request of alice asks about the seals. -/
def sealedInquiry : Inquiry where
  function? := sealed.function?
  context := .plain
  matcher := ⟨"check(p.seal)", [.call ⟨"check", [.field ⟨"p", "seal", []⟩]⟩]⟩
  request := [.text "alice"]
  requestFields := ["sub"]
  policyFields := ["seal"]

/-- The failed check of a seal is an error of the matcher. -/
theorem sealedInquiry_contains :
    ∀ rule ∈ sealedInquiry.rows (sealed.store.rules "p"), sealedInquiry.Contains rule := by
  intro rule member error failed
  rcases List.mem_cons.mp member with rfl | member
  · cases failed
    rfl
  · -- The other seals hold, so nothing fails.
    rcases List.mem_cons.mp member with rfl | member
    · cases failed
    · obtain rfl := List.mem_singleton.mp member
      cases failed

/-- The decision about the seals is made of the failed check and the first seal that holds. -/
theorem decide_eq_askAll_sealed :
    sealed.enabled.isTrue = true ∧
      sealed.inquiry .plain "" [.text "alice"] = .ok sealedInquiry ∧
      (∀ rule ∈ sealedInquiry.rows (sealed.store.rules "p"), sealedInquiry.Contains rule) ∧
      ∃ decision all,
        (sealed.decide .plain "" [.text "alice"]).result = .ok decision ∧
        (sealedInquiry.askAll 0 (sealedInquiry.rows (sealed.store.rules "p"))).result = .ok all ∧
        all.length = 3 ∧
        decision.verdict = (sealed.selector .plain).combine all ∧
        decision.outcomes.map (·.index) = [0, 1] := by
  -- The third seal is left out, as the second one settles the verdict.
  have early : (sealed.decide .plain "" [.text "alice"]).result.toOption.map
      (·.outcomes.map (·.index)) = some [0, 1] := by decide +kernel
  have posed : sealed.inquiry .plain "" [.text "alice"] = .ok sealedInquiry := rfl
  obtain ⟨decision, all, decided, asked, places, combined, _, _⟩ :=
    decide_eq_askAll rfl posed sealedInquiry_contains
  have three : all.length = 3 := by
    rw [← List.length_map (f := fun outcome : Outcome => (outcome.rule, outcome.index)), places]
    rfl
  rw [decided] at early
  exact ⟨rfl, posed, sealedInquiry_contains, decision, all, decided, asked, three, combined,
    Option.some.inj early⟩

end Enforcer

end AccessControl
