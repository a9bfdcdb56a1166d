import AccessControl.Proofs.Decision.Matched
import Mathlib.Data.List.Basic

/-! Decisions over rules that are stored in another order: they have the same verdict as far as the
selector does not mind the order. -/

namespace AccessControl

/-! ### Orders that a selector does not tell apart -/

/-- The others are the same items, in any order by the selectors that look for some effect alone; by
the priority of subjects the items of each subject keep their order, and by priority all do. -/
def Selector.Reorders {α : Type} (selector : Selector) (subjectOf : α → String)
    (items others : List α) : Prop :=
  items.Perm others ∧
    match selector with
    | .someAllow | .noDeny | .allowAndNotDeny => True
    | .priority => items = others
    | .subjectPriority => ∀ subject,
      items.filter (subjectOf · == subject) = others.filter (subjectOf · == subject)

namespace Selector.Reorders

variable {α β : Type} {selector : Selector} {subjectOf : α → String} {items others : List α}

/-- What passes a test is reordered as everything is. -/
theorem filter (reordered : selector.Reorders subjectOf items others) (test : α → Bool) :
    selector.Reorders subjectOf (items.filter test) (others.filter test) := by
  obtain ⟨perm, kept⟩ := reordered
  refine ⟨perm.filter test, ?_⟩
  cases selector with
  -- Nothing is asked but that the items are the same.
  | someAllow | noDeny | allowAndNotDeny => trivial
  -- The order is kept among those that pass.
  | priority => exact congrArg (List.filter test) kept
  -- The order is kept among those of each subject that pass.
  | subjectPriority =>
    intro subject
    rw [List.filter_comm, kept subject, List.filter_comm]

/-- What is told of the items and keeps their subjects is reordered as they are. -/
theorem map {f : α → β} {toldSubject : β → String}
    (told : ∀ item, toldSubject (f item) = subjectOf item)
    (reordered : selector.Reorders subjectOf items others) :
    selector.Reorders toldSubject (items.map f) (others.map f) := by
  obtain ⟨perm, kept⟩ := reordered
  refine ⟨perm.map f, ?_⟩
  cases selector with
  -- Nothing is asked but that the items are the same.
  | someAllow | noDeny | allowAndNotDeny => trivial
  -- The order is kept among what is made of them.
  | priority => exact congrArg (List.map f) kept
  -- The subjects stay, and so does the order for each of them.
  | subjectPriority =>
    intro subject
    simp only [List.filter_map, Function.comp_def, told, kept subject]

end Selector.Reorders

/-- Outcomes whose evidence is reordered have the same verdict. -/
theorem Selector.combine_of_reorders {selector : Selector} {outcomes others : List Outcome}
    (reordered : selector.Reorders Evidence.subject (evidence outcomes) (evidence others)) :
    selector.combine outcomes = selector.combine others := by
  obtain ⟨perm, kept⟩ := reordered
  have anyEffect (effect : Effect) : anyEffect effect (outcomes.filter (·.isMatched)) =
      anyEffect effect (others.filter (·.isMatched)) := by
    rw [Evidence.anyEffect_eq, Evidence.anyEffect_eq, perm.any_eq]
  cases selector with
  -- There are the same effects.
  | someAllow | noDeny | allowAndNotDeny => simp only [combine, anyEffect]
  -- The order is the same.
  | priority => exact combine_congr _ kept
  | subjectPriority =>
    -- Each subject has the verdict it had, so the verdicts are those of before in another order.
    have verdicts : (subjectVerdicts (outcomes.filter (·.isMatched))).Perm
        (subjectVerdicts (others.filter (·.isMatched))) := by
      simp only [Evidence.subjectVerdicts_eq, kept]
      exact perm.map _
    simp only [combine, verdicts.contains_eq]

/-! ### Decisions over reordered rules -/

namespace Inquiry

variable {inquiry : Inquiry} {selector : Selector} {rules others : List Rule}

/-- What is asked about is reordered as the rules are: where there are no rules there are none in
another order. -/
theorem rows_reorders (reordered : selector.Reorders inquiry.subjectOf rules others) :
    selector.Reorders inquiry.subjectOf (inquiry.rows rules) (inquiry.rows others) := by
  have none : rules.isEmpty = others.isEmpty := reordered.1.isEmpty_eq
  simp only [rows, ← none]
  split
  · -- The blank row is in order by itself.
    exact ⟨.refl _, by cases selector <;> simp⟩
  · -- Any other rows are the rules.
    exact reordered

/-- Reordered rules have the same verdict. -/
theorem combine_of_reorders {all more : List Outcome}
    (reordered : selector.Reorders inquiry.subjectOf rules others)
    (asked : (inquiry.askAll 0 rules).result = .ok all)
    (askedOther : (inquiry.askAll 0 others).result = .ok more) :
    selector.combine all = selector.combine more := by
  -- Evidence of a rule keeps its subject, and does not tell of its place.
  have subjects : ∀ rule, (inquiry.evidenceOf rule).subject = inquiry.subjectOf rule := fun _ => rfl
  apply Selector.combine_of_reorders
  rw [askAll_evidence _ _ _ asked, askAll_evidence _ _ _ askedOther]
  exact (reordered.filter _).map subjects

end Inquiry

namespace Enforcer

section

variable {enforcer : Enforcer} {context : Context} {expression : String} {request : List Value}

/-- The verdict of a decision is that of the outcomes of all rows. -/
theorem decide_verdict {inquiry : Inquiry} {all : List Outcome}
    (enabled : enforcer.enabled.isTrue = true)
    (posed : enforcer.inquiry context expression request = .ok inquiry)
    (asked : (inquiry.askAll 0 (inquiry.rows (enforcer.store.rules context.ptype))).result =
      .ok all) :
    ∃ decision, (enforcer.decide context expression request).result = .ok decision ∧
      decision.verdict = (enforcer.selector context).combine all := by
  have decided := (decide_result enabled posed).trans (Inquiry.decide_result asked _)
  have combined := Selector.combine_take (enforcer.selector context) all
  generalize enforcer.selector context = selector at decided combined ⊢
  exact ⟨_, decided, combined⟩

/-- If only errors of the matcher come of evaluating it for the rows, a decision has the same
verdict, or fails with the same error, after the rules of its type are put in an order that the
selector does not tell from theirs. A request that fits its schema gets a decision. -/
theorem decide_reordered {store : Store}
    (contained : ∀ inquiry, enforcer.inquiry context expression request = .ok inquiry →
      ∀ rule ∈ inquiry.rows (enforcer.store.rules context.ptype), inquiry.Contains rule)
    (reordered : ∀ inquiry, enforcer.inquiry context expression request = .ok inquiry →
      (enforcer.selector context).Reorders inquiry.subjectOf (enforcer.store.rules context.ptype)
        (store.rules context.ptype)) :
    (decide { enforcer with store := store } context expression request).result.map (·.verdict) =
      (enforcer.decide context expression request).result.map (·.verdict) ∧
    -- The rows are reordered as the rules are, and all of them have outcomes.
    ∀ inquiry, enforcer.inquiry context expression request = .ok inquiry →
      ∃ decision, (enforcer.decide context expression request).result = .ok decision := by
  by_cases enabled : enforcer.enabled.isTrue = true
  · cases posed : enforcer.inquiry context expression request with
    | error error =>
      -- The request fails before any rule is looked at.
      have posedOther : inquiry { enforcer with store := store } context expression request =
          .error error := posed
      -- The verdict is one of the outcomes alone.
      simp [decide, enabled, posed, posedOther]
    | ok inquiry =>
      have rows := Inquiry.rows_reorders (reordered inquiry posed)
      obtain ⟨all, asked, _⟩ := Inquiry.askAll_contained _ 0 (contained inquiry posed)
      obtain ⟨more, askedOther, _⟩ := Inquiry.askAll_contained _ 0 fun rule member =>
        contained inquiry posed rule (rows.1.mem_iff.mpr member)
      obtain ⟨decision, decided, verdict⟩ := decide_verdict enabled posed asked
      obtain ⟨other, decidedOther, verdictOther⟩ :=
        @decide_verdict { enforcer with store := store } context expression request inquiry more
          enabled posed askedOther
      have same : other.verdict = decision.verdict := by
        rw [verdict, Inquiry.combine_of_reorders rows asked askedOther]
        exact verdictOther
      refine ⟨?_, fun _ _ => ⟨decision, decided⟩⟩
      simp only [decided, decidedOther, Except.map, same]
  · -- An enforcer that is switched off does not look at its rules.
    simp [decide, enabled]

end

/-- Rules about two subjects, of whom the first has a rule that allows before one that denies. -/
def graded : Enforcer where
  config := .default
  enabled := .flag true
  model :=
    ⟨[("r", ["obj"])], [("p", ["sub", "obj", "eft"])], [], [("e", Selector.subjectPriority.text)],
      [("m", "r.obj == p.obj")]⟩
  matchers := [("m", ⟨"r.obj == p.obj",
    [.equation (.plain (.field ⟨"r", "obj", []⟩)) (.plain (.field ⟨"p", "obj", []⟩)) false]⟩)]
  store :=
    ⟨[("p", [["alice", "data", "allow"], ["alice", "data", "deny"], ["bob", "data", "allow"]])]⟩
  functions := .empty
  roster := .empty
  evaluator := ⟨⟨[]⟩, []⟩
  warned := []

/-- The store with the rule about the second subject in front. -/
def regraded : Store :=
  ⟨[("p", [["bob", "data", "allow"], ["alice", "data", "allow"], ["alice", "data", "deny"]])]⟩

/-- What a request for the data asks about the rules. -/
def gradedInquiry : Inquiry where
  function? := graded.function?
  context := .plain
  matcher := ⟨"r.obj == p.obj",
    [.equation (.plain (.field ⟨"r", "obj", []⟩)) (.plain (.field ⟨"p", "obj", []⟩)) false]⟩
  request := [.text "data"]
  requestFields := ["obj"]
  policyFields := ["sub", "obj", "eft"]

/-- The matcher has a result for each of the rules. -/
theorem gradedInquiry_contains :
    ∀ rule ∈ gradedInquiry.rows (graded.store.rules "p"), gradedInquiry.Contains rule := by
  have holds : ∀ rule ∈ graded.store.rules "p",
      (gradedInquiry.matcher.holds (gradedInquiry.environment rule)).isOk = true := by
      decide +kernel
  exact fun rule member => Inquiry.contains_of_isOk (holds rule member)

/-- The rules of each subject keep their order. -/
theorem gradedInquiry_reorders : Selector.subjectPriority.Reorders gradedInquiry.subjectOf
    -- The rules of the one subject are in their order.
    (graded.store.rules "p") (regraded.rules "p") := by
  refine ⟨by decide, fun subject => ?_⟩
  -- The other has one rule at most.
  have first (effect : String) : gradedInquiry.subjectOf ["alice", "data", effect] = "alice" := rfl
  have second : gradedInquiry.subjectOf ["bob", "data", "allow"] = "bob" := rfl
  have before : graded.store.rules "p" =
      [["alice", "data", "allow"], ["alice", "data", "deny"], ["bob", "data", "allow"]] := rfl
  have after : regraded.rules "p" =
      [["bob", "data", "allow"], ["alice", "data", "allow"], ["alice", "data", "deny"]] := rfl
  rw [before, after]
  by_cases alice : "alice" = subject
  · subst alice
    rfl
  · simp [List.filter_cons, first, second, alice]

/-- By the priority of subjects the verdict stays when the second subject is put before the
first. -/
theorem decide_reordered_graded :
    graded.inquiry .plain "" [.text "data"] = .ok gradedInquiry ∧
    (∀ rule ∈ gradedInquiry.rows (graded.store.rules "p"), gradedInquiry.Contains rule) ∧
    (graded.selector .plain).Reorders gradedInquiry.subjectOf (graded.store.rules "p")
        (regraded.rules "p") ∧
    ∃ decision other, (graded.decide .plain "" [.text "data"]).result = .ok decision ∧
      (decide { graded with store := regraded } .plain "" [.text "data"]).result = .ok other ∧
      decision.verdict = .allow ∧ other.verdict = .allow := by
  have posed : graded.inquiry .plain "" [.text "data"] = .ok gradedInquiry := rfl
  have reorders : (graded.selector .plain).Reorders gradedInquiry.subjectOf (graded.store.rules "p")
      (regraded.rules "p") := by
    have selector : graded.selector .plain = .subjectPriority := by decide +kernel
    rw [selector]
    -- There was no error before.
    exact gradedInquiry_reorders
  have only {inquiry : Inquiry} (asked : graded.inquiry .plain "" [.text "data"] = .ok inquiry) :
      inquiry = gradedInquiry := (Except.ok.inj (posed.symm.trans asked)).symm
  -- The verdict is the same.
  obtain ⟨same, decides⟩ := @decide_reordered graded .plain "" [.text "data"] regraded
    (fun _ asked => only asked ▸ gradedInquiry_contains) (fun _ asked => only asked ▸ reorders)
  obtain ⟨decision, decided⟩ := decides gradedInquiry posed
  have allowed : (graded.decide .plain "" [.text "data"]).result.map (·.verdict) = .ok .allow := by
    decide +kernel
  cases decidedOther :
      (decide { graded with store := regraded } .plain "" [.text "data"]).result with
  | error error =>
    rw [decidedOther, allowed] at same
    cases same
  | ok other =>
    rw [decidedOther, allowed] at same
    rw [decided] at allowed
    exact ⟨posed, gradedInquiry_contains, reorders, decision, other, decided, rfl,
      Except.ok.inj allowed, Except.ok.inj same⟩

end Enforcer

end AccessControl
