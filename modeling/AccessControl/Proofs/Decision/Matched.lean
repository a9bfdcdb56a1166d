import AccessControl.Proofs.Decision.Stopping

/-! A verdict rests on nothing but the effects and the subjects of the rules that match. -/

namespace AccessControl

/-! ### Evidence -/

/-- What counts of an outcome once it is matched. -/
structure Evidence where
  effect : Effect
  subject : String

/-- What counts of outcomes, in their order; those that are not matched do not. -/
def evidence (outcomes : List Outcome) : List Evidence :=
  (outcomes.filter (·.isMatched)).map fun outcome => ⟨outcome.effect, outcome.subject⟩

/-- An outcome without its place. -/
def Outcome.unplaced (outcome : Outcome) : Outcome :=
  { outcome with index := 0 }

/-- The matched outcomes, without their places. -/
def matchedAlone (outcomes : List Outcome) : List Outcome :=
  (outcomes.filter (·.isMatched)).map Outcome.unplaced

/-- Evidence can be told of the matched outcomes alone, and does not depend on their places. -/
theorem evidence_eq_map (outcomes : List Outcome) :
    evidence outcomes = (matchedAlone outcomes).map fun outcome =>
      ⟨outcome.effect, outcome.subject⟩ := by
  rw [evidence, matchedAlone, List.map_map]
  rfl

namespace Evidence

/-- The first effect that decides, as evidence tells it. -/
def firstDecisive (given : List Evidence) : Option Effect :=
  (given.find? (·.effect.isDecisive)).map (·.effect)

/-- An outcome has the effect if a piece of evidence has it. -/
theorem anyEffect_eq (effect : Effect) (outcomes : List Outcome) :
    anyEffect effect (outcomes.filter (·.isMatched)) =
      (evidence outcomes).any (·.effect == effect) := by
  simp only [anyEffect, evidence, List.any_map]
  rfl

/-- The first effect that decides is that of the evidence. -/
theorem firstDecisive_eq (counted : List Outcome) :
    AccessControl.firstDecisive counted =
      firstDecisive (counted.map fun outcome => ⟨outcome.effect, outcome.subject⟩) := by
  simp only [AccessControl.firstDecisive, firstDecisive, List.find?_map, Option.map_map]
  rfl

/-- The effects for the subjects are those of the evidence about each of them. -/
theorem subjectVerdicts_eq (outcomes : List Outcome) :
    subjectVerdicts (outcomes.filter (·.isMatched)) =
      (evidence outcomes).map fun own =>
        firstDecisive ((evidence outcomes).filter (·.subject == own.subject)) := by
  -- The outcomes about a subject are told apart by the subject alone, which is part of the
  -- evidence.
  simp only [subjectVerdicts, evidence, firstDecisive_eq, List.map_map, List.filter_map]
  rfl

end Evidence

/-- Outcomes with the same evidence have the same verdict, whatever the selector. -/
theorem Selector.combine_congr (selector : Selector) {outcomes others : List Outcome}
    (same : evidence outcomes = evidence others) :
    selector.combine outcomes = selector.combine others := by
  -- Each selector looks at matched outcomes through one of these three alone.
  have anyEffect := fun effect => (Evidence.anyEffect_eq effect outcomes).trans
    (same ▸ (Evidence.anyEffect_eq effect others).symm)
  have first : firstDecisive (outcomes.filter (·.isMatched)) =
      firstDecisive (others.filter (·.isMatched)) := by
    rw [Evidence.firstDecisive_eq, Evidence.firstDecisive_eq]
    exact congrArg Evidence.firstDecisive same
  have verdicts : subjectVerdicts (outcomes.filter (·.isMatched)) =
      subjectVerdicts (others.filter (·.isMatched)) := by
    rw [Evidence.subjectVerdicts_eq, Evidence.subjectVerdicts_eq, same]
  cases selector <;> simp only [combine, anyEffect, first, verdicts]

/-! ### Matched rules -/

namespace Inquiry

/-- The matcher holds for a rule; a rule for which it cannot be evaluated is not matched. -/
def matchesRule (inquiry : Inquiry) (rule : Rule) : Bool :=
  match inquiry.matcher.holds (inquiry.environment rule) with
  | .ok isMatched => isMatched
  | .error _ => false

/-- The outcome of a rule that matches, without a place. -/
def matchedOutcome (inquiry : Inquiry) (rule : Rule) : Outcome :=
  ⟨0, rule, true, inquiry.effectOf rule, inquiry.subjectOf rule, none⟩

/-- What counts of a rule that matches. -/
def evidenceOf (inquiry : Inquiry) (rule : Rule) : Evidence :=
  ⟨inquiry.effectOf rule, inquiry.subjectOf rule⟩

variable {inquiry : Inquiry}

/-- The outcome for a rule is matched exactly if the rule matches. -/
theorem ask_matchedAlone {rule : Rule} {index : Nat} {outcome : Outcome}
    (asked : (inquiry.ask index rule).result = .ok outcome) :
    matchedAlone [outcome] = ([rule].filter inquiry.matchesRule).map inquiry.matchedOutcome := by
  cases evaluated : inquiry.matcher.holds (inquiry.environment rule) with
  | ok isMatched =>
    simp only [ask, evaluated] at asked
    obtain rfl := Except.ok.inj asked
    cases isMatched <;>
      simp [matchedAlone, matchesRule, evaluated, matchedOutcome, Outcome.unplaced]
  | error error =>
    simp only [ask, evaluated] at asked
    split at asked
    · -- An error of the matcher leaves an outcome that is not matched.
      obtain rfl := Except.ok.inj asked
      simp [matchedAlone, matchesRule, evaluated]
    · cases asked

/-- The matched outcomes are those of the rules that match, in their order. Rules that do not match
leave no trace among them, wherever they stand. -/
theorem askAll_matchedAlone (rules : List Rule) : ∀ index all,
    (inquiry.askAll index rules).result = .ok all →
      matchedAlone all = (rules.filter inquiry.matchesRule).map inquiry.matchedOutcome := by
  induction rules with
  | nil =>
    intro index all asked
    -- Nothing was asked, so there is no outcome.
    obtain rfl : [] = all := Except.ok.inj asked
    rfl
  | cons rule rest ih =>
    -- The places count on, but they are left out.
    intro index all asked
    obtain ⟨outcome, first, asked⟩ := Logged.bind_ok.mp asked
    obtain ⟨more, askedRest, asked⟩ := Logged.bind_ok.mp asked
    obtain rfl : outcome :: more = all := Except.ok.inj asked
    have split : matchedAlone (outcome :: more) = matchedAlone [outcome] ++ matchedAlone more := by
      simp [matchedAlone, ← List.map_append, ← List.filter_append]
    rw [split, ask_matchedAlone first, ih _ _ askedRest, ← List.map_append, ← List.filter_append]
    rfl

/-- The evidence of all outcomes is that of the rules that match, in their order. -/
theorem askAll_evidence (rules : List Rule) (index : Nat) (all : List Outcome)
    (asked : (inquiry.askAll index rules).result = .ok all) :
    evidence all = (rules.filter inquiry.matchesRule).map inquiry.evidenceOf := by
  rw [evidence_eq_map, askAll_matchedAlone rules index all asked, List.map_map]
  rfl

/-- If the same rules match in the same order in two inquiries that read rules by the same fields,
these have the same verdict, whatever other rules there are. -/
theorem combine_of_sameMatches {other : Inquiry} (selector : Selector) {rules others : List Rule}
    {all more : List Outcome} (asked : (inquiry.askAll 0 rules).result = .ok all)
    (askedOther : (other.askAll 0 others).result = .ok more)
    (fields : inquiry.policyFields = other.policyFields)
    (same : rules.filter inquiry.matchesRule = others.filter other.matchesRule) :
    selector.combine all = selector.combine more := by
  -- What counts of a rule depends on nothing but the fields by which it is read.
  have told : inquiry.evidenceOf = other.evidenceOf := by
    funext rule
    simp only [evidenceOf, effectOf, subjectOf, position?, fields]
  apply selector.combine_congr
  rw [askAll_evidence _ _ _ asked, askAll_evidence _ _ _ askedOther, same, told]

end Inquiry

end AccessControl
