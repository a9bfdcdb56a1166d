import AccessControl.Proofs.Decision.Effects
import AccessControl.Proofs.Enforcer.Stored

/-! The rule that a decision by priority reports is that of the first matched row with the effect of
the verdict. This row decides, unless it denies and an earlier row of its subject allows. -/

namespace AccessControl

/-- What decides by itself is to allow and to deny. -/
theorem Effect.isDecisive_iff {effect : Effect} : effect.isDecisive = true ↔
    effect = .allow ∨ effect = .deny := by
  cases effect <;> decide

/-- The matcher holds for the rule of the outcome, and the rule allows or denies. -/
def Outcome.isDecisive (outcome : Outcome) : Bool :=
  outcome.isMatched && outcome.effect.isDecisive

namespace Selector

/-- The outcomes that an outcome competes with: by the priority of subjects those of its subject,
and else all. -/
def rivals (selector : Selector) (outcome : Outcome) (outcomes : List Outcome) : List Outcome :=
  match selector with
  | .subjectPriority => outcomes.filter fun other => other.subject == outcome.subject
  | _ => outcomes

/-- The outcome decides: it is the first one among its rivals that is matched and allows or
denies. -/
def Decides (selector : Selector) (outcomes : List Outcome) (outcome : Outcome) : Prop :=
  (selector.rivals outcome outcomes).find? (·.isDecisive) = some outcome

instance (selector : Selector) (outcomes : List Outcome) (outcome : Outcome) :
    Decidable (selector.Decides outcomes outcome) :=
  inferInstanceAs (Decidable (_ = some outcome))

/-- An outcome that denies has no effect of its own, as one of the same subject before it allows. -/
def Overrules (selector : Selector) (before : List Outcome) (outcome : Outcome) : Prop :=
  selector = .subjectPriority ∧ outcome.effect = .deny ∧
    ∃ earlier ∈ before, earlier.isMatched = true ∧ earlier.effect = .allow ∧
    earlier.subject = outcome.subject

variable {selector : Selector} {outcomes before after : List Outcome} {outcome decider : Outcome}
    {effect : Effect}

/-! ### Outcomes that decide -/

/-- An outcome that decides is one of those that there are. -/
theorem Decides.mem (decides : selector.Decides outcomes decider) : decider ∈ outcomes := by
  have among : decider ∈ selector.rivals decider outcomes := List.mem_of_find?_eq_some decides
  cases selector with
  -- The rivals are the outcomes of a subject.
  | subjectPriority => exact (List.mem_filter.mp among).1
  -- The rivals are all outcomes.
  | someAllow | noDeny | allowAndNotDeny | priority => exact among

/-- An outcome that decides is decisive. -/
theorem Decides.isDecisive (decides : selector.Decides outcomes decider) :
    decider.isDecisive = true :=
  List.find?_some decides

/-- The first effect that decides among the matched outcomes is that of the first decisive one. -/
theorem firstDecisive_matched (outcomes : List Outcome) :
    firstDecisive (outcomes.filter (·.isMatched)) =
      (outcomes.find? (·.isDecisive)).map (·.effect) := by
  simp [firstDecisive, List.find?_filter, Outcome.isDecisive]

/-- The verdicts for the subjects are the effects of the outcomes that decide. -/
theorem mem_subjectVerdicts : some effect ∈ subjectVerdicts (outcomes.filter (·.isMatched)) ↔
    ∃ decider, subjectPriority.Decides outcomes decider ∧ decider.effect = effect := by
  have verdict (subject : String) :
      firstDecisive ((outcomes.filter (·.isMatched)).filter fun other => other.subject == subject) =
        ((outcomes.filter fun other => other.subject == subject).find? (·.isDecisive)).map
        (·.effect) := by
    rw [List.filter_comm, firstDecisive_matched]
  simp only [subjectVerdicts, List.mem_map, verdict, Option.map_eq_some_iff]
  constructor
  · rintro ⟨outcome, _, decider, first, same⟩
    -- The first decisive outcome of a subject is one of this subject itself.
    have own : decider.subject = outcome.subject := by
      simpa using (List.mem_filter.mp (List.mem_of_find?_eq_some first)).2
    exact ⟨decider, by rw [Decides, rivals, own]; exact first, same⟩
  · -- What decides is the first decisive outcome of its subject.
    rintro ⟨decider, decides, same⟩
    have isMatched : decider.isMatched = true := (Bool.and_eq_true_iff.mp decides.isDecisive).1
    exact ⟨decider, List.mem_filter.mpr ⟨decides.mem, isMatched⟩, decider, decides, same⟩

/-- By priority the verdict is the effect of the outcome that decides. -/
theorem Decides.combine_priority (decides : priority.Decides outcomes decider) :
    priority.combine outcomes = decider.effect := by
  have first : outcomes.find? (·.isDecisive) = some decider := decides
  simp [combine, firstDecisive_matched, first]

/-- By the priority of subjects the verdict is to deny if an outcome that decides denies. -/
theorem Decides.combine_deny (decides : subjectPriority.Decides outcomes decider)
    (denies : decider.effect = .deny) : subjectPriority.combine outcomes = .deny := by
  have among := mem_subjectVerdicts.mpr ⟨decider, decides, denies⟩
  simp [combine, among]

/-- If there is a decisive outcome, one that decides has the effect of the verdict. -/
theorem exists_decides (ranked : selector = .priority ∨ selector = .subjectPriority)
    (member : outcome ∈ outcomes) (decisive : outcome.isDecisive = true) :
    ∃ decider, selector.Decides outcomes decider ∧ decider.effect = selector.combine outcomes := by
  -- Among the rivals of the outcome, of which it is one itself, some outcome is the first decisive
  -- one.
  have first {rivals : List Outcome} (own : outcome ∈ rivals) :
      ∃ decider, rivals.find? (·.isDecisive) = some decider :=
    Option.isSome_iff_exists.mp (List.find?_isSome.mpr ⟨outcome, own, decisive⟩)
  rcases ranked with rfl | rfl
  · -- The first decisive outcome of all has the verdict.
    obtain ⟨decider, decides⟩ := first member
    have decides : priority.Decides outcomes decider := decides
    exact ⟨decider, decides, decides.combine_priority.symm⟩
  · -- Some outcome that decides denies.
    by_cases denied : ∃ decider, subjectPriority.Decides outcomes decider ∧ decider.effect = .deny
    · obtain ⟨decider, decides, denies⟩ := denied
      exact ⟨decider, decides, denies.trans (decides.combine_deny denies).symm⟩
    · -- No outcome that decides denies, so the one for the subject of the given outcome allows.
      obtain ⟨decider, found⟩ := first
        (List.mem_filter.mpr ⟨member, beq_self_eq_true outcome.subject⟩ :
        outcome ∈ subjectPriority.rivals outcome outcomes)
      have own : decider.subject = outcome.subject := by
        simpa using (List.mem_filter.mp (List.mem_of_find?_eq_some found)).2
      have decides : subjectPriority.Decides outcomes decider := by
        rw [Decides, rivals, own]
        exact found
      have allows : decider.effect = .allow :=
        (Effect.isDecisive_iff.mp (Bool.and_eq_true_iff.mp decides.isDecisive).2).resolve_right
          fun denies => denied ⟨decider, decides, denies⟩
      have noDeny := mt mem_subjectVerdicts.mp denied
      have someAllow := mem_subjectVerdicts.mpr ⟨decider, decides, allows⟩
      exact ⟨decider, decides, by simp [combine, noDeny, someAllow, allows]⟩

/-- A matched outcome competes with those before it, with itself and with those after it. -/
theorem rivals_split (selector : Selector) (outcome : Outcome) (before after : List Outcome) :
    selector.rivals outcome (before ++ outcome :: after) =
      selector.rivals outcome before ++ outcome :: selector.rivals outcome after := by
  cases selector <;> simp [rivals]

/-- The first decisive one among earlier rivals decides. -/
theorem decides_of_earlier (split : outcomes = before ++ outcome :: after)
    (earlier : (selector.rivals outcome before).find? (·.isDecisive) = some decider) :
    decider ∈ before ∧ selector.Decides outcomes decider ∧
      (selector = .subjectPriority → decider.subject = outcome.subject) := by
  have among := List.mem_of_find?_eq_some earlier
  have found : (selector.rivals outcome outcomes).find? (·.isDecisive) = some decider := by
    rw [split, rivals_split, List.find?_append, earlier, Option.some_or]
  cases selector with
  -- The rival is one of the same subject.
  | subjectPriority =>
    obtain ⟨member, own⟩ := List.mem_filter.mp among
    have own : decider.subject = outcome.subject := by simpa using own
    exact ⟨member, by rw [Decides, rivals, own]; exact found, fun _ => own⟩
  -- All outcomes are rivals.
  | someAllow | noDeny | allowAndNotDeny | priority => exact ⟨among, found, nofun⟩

/-- The first outcome with the effect of the verdict decides, unless an earlier one overrules it. -/
theorem decides_iff (ranked : selector = .priority ∨ selector = .subjectPriority)
    (split : outcomes = before ++ outcome :: after) (decisive : outcome.isDecisive = true)
    (verdict : outcome.effect = selector.combine outcomes)
    (first : ∀ earlier ∈ before, earlier.isMatched = true →
      earlier.effect ≠ selector.combine outcomes) :
    selector.Decides outcomes outcome ↔ ¬ selector.Overrules before outcome := by
  obtain ⟨isMatched, isDecisive⟩ := Bool.and_eq_true_iff.mp decisive
  constructor
  · -- What overrules the outcome would be a decisive rival before it.
    rintro decides ⟨rfl, _, earlier, member, matched, allows, own⟩
    have rival : earlier ∈ subjectPriority.rivals outcome before :=
      List.mem_filter.mpr ⟨member, by simp [own]⟩
    have counts : earlier.isDecisive = true := by
      simp [Outcome.isDecisive, matched, allows, Effect.isDecisive]
    obtain ⟨decider, found⟩ := Option.isSome_iff_exists.mp
      (List.find?_isSome.mpr ⟨earlier, rival, counts⟩)
    obtain ⟨before, other, same⟩ := decides_of_earlier split found
    have both : some outcome = some decider := by
      have subjects := same rfl
      rw [Decides, rivals] at decides other
      rw [subjects] at other
      exact decides.symm.trans other
    obtain rfl := Option.some.inj both
    exact first outcome before isMatched verdict
  · intro standing
    cases found : (selector.rivals outcome before).find? (·.isDecisive) with
    -- Without a decisive rival before it the outcome is the first one.
    | none => rw [Decides, split, rivals_split, List.find?_append, found, Option.none_or,
        List.find?_cons_of_pos decisive]
    | some decider =>
      -- A decisive rival before the outcome would decide, with an effect that is not the verdict.
      obtain ⟨member, decides, own⟩ := decides_of_earlier split found
      obtain ⟨matched, counts⟩ := Bool.and_eq_true_iff.mp decides.isDecisive
      have other := first decider member matched
      rcases ranked with rfl | rfl
      · -- By priority the rival has the verdict.
        exact absurd decides.combine_priority.symm other
      · -- By subject the rival allows, and so overrules the outcome.
        have allows : decider.effect = .allow := (Effect.isDecisive_iff.mp counts).resolve_right
          fun denies => other (denies.trans (decides.combine_deny denies).symm)
        have denies : outcome.effect = .deny := (Effect.isDecisive_iff.mp isDecisive).resolve_left
          fun own => other (allows.trans (own.symm.trans verdict))
        exact absurd ⟨rfl, denies, decider, member, matched, allows, own rfl⟩ standing

end Selector

/-! ### Decisions -/

/-- The rule that a decision reports is that of an outcome, and it is not empty. -/
theorem Decision.mem_of_decidingRule {verdict : Effect} {outcomes : List Outcome} {rule : Rule}
    (reported : decidingRule verdict outcomes = some rule) :
    rule ≠ [] ∧ ∃ outcome ∈ outcomes, outcome.rule = rule := by
  unfold decidingRule at reported
  split at reported
  · -- The rule is that of an outcome, and not empty.
    obtain ⟨outcome, found, rfl⟩ := Option.map_eq_some_iff.mp reported
    have passes := List.find?_some found
    simp only [Bool.and_eq_true] at passes
    exact ⟨by simpa using passes.2, outcome, List.mem_of_find?_eq_some found, rfl⟩
  · -- Without a verdict there is no such rule.
    cases reported

/-- The rule that a decision reports is that of the first matched outcome with the effect of the
verdict, as far as no rule is empty. -/
theorem Decision.decidingRule_eq_some {verdict : Effect} {outcomes : List Outcome} {rule : Rule}
    (filled : ∀ outcome ∈ outcomes, outcome.rule ≠ [])
    (reported : decidingRule verdict outcomes = some rule) :
    verdict.isDecisive = true ∧ ∃ before outcome after, outcomes = before ++ outcome :: after ∧
      outcome.rule = rule ∧ outcome.isMatched = true ∧ outcome.effect = verdict ∧
      ∀ earlier ∈ before, earlier.isMatched = true → earlier.effect ≠ verdict := by
  unfold decidingRule at reported
  split at reported
  · rename_i decisive
    obtain ⟨outcome, found, own⟩ := Option.map_eq_some_iff.mp reported
    obtain ⟨passes, before, after, split, others⟩ := List.find?_eq_some_iff_append.mp found
    simp only [Bool.and_eq_true, beq_iff_eq] at passes
    refine ⟨decisive, before, outcome, after, split, own, passes.1.1, passes.1.2,
      fun earlier member matched same => ?_⟩
    -- An earlier outcome with this effect would have been reported, as its rule is not empty.
    have nonempty := filled earlier (by simp [split, member])
    simpa [matched, same, nonempty] using others earlier member
  · cases reported

namespace Inquiry

variable {inquiry : Inquiry} {selector : Selector}

/-- A row that is not empty is no row for missing rules. -/
theorem rows_of_filled {rules : List Rule} {rule : Rule} (among : rule ∈ inquiry.rows rules)
    (filled : rule ≠ []) : inquiry.rows rules = rules := by
  unfold rows at among ⊢
  split
  · -- The only row is empty.
    rename_i missing
    rw [if_pos missing] at among
    exact absurd (List.mem_singleton.mp among) filled
  · -- The rows are the rules.
    rfl

/-- An outcome tells of its rule and of its place. -/
theorem ask_place {index : Nat} {rule : Rule} {outcome : Outcome}
    (asked : (inquiry.ask index rule).result = .ok outcome) :
    (outcome.rule, outcome.index) = (rule, index) := by
  unfold ask at asked
  split at asked
  · -- The outcome is that of the rule, at its place.
    obtain rfl := Except.ok.inj asked
    rfl
  · split at asked
    · -- And so is one with an error.
      obtain ⟨_, _, asked⟩ := Logged.bind_ok.mp asked
      obtain rfl := Except.ok.inj asked
      rfl
    · -- There is no outcome.
      cases asked

/-- The rules that are asked about are the first ones, and all of them if no outcome settles the
verdict. -/
theorem askUntil_places {rules : List Rule} : ∀ {index outcomes},
    (inquiry.askUntil selector index rules).result = .ok outcomes →
      ∃ unasked, outcomes.map (fun outcome => (outcome.rule, outcome.index)) ++
        unasked = rules.zipIdx index ∧
        ((∀ outcome, selector.settles outcome = false) → unasked = []) := by
  induction rules with
  | nil =>
    intro index outcomes asked
    obtain rfl : [] = outcomes := Except.ok.inj asked
    exact ⟨[], rfl, fun _ => rfl⟩
  | cons rule rest ih =>
    -- The places count on, so the index stays quantified over.
    intro index outcomes asked
    obtain ⟨first, askedFirst, following⟩ := Logged.bind_ok.mp asked
    have place := ask_place askedFirst
    split at following
    · -- The outcome settles the verdict, and the others are not asked.
      rename_i settled
      obtain rfl : [first] = outcomes := Except.ok.inj following
      exact ⟨rest.zipIdx (index + 1), by simp [place], fun never => by
        simp [never first] at settled⟩
    · -- The others are asked.
      obtain ⟨more, askedMore, whole⟩ := Logged.bind_ok.mp following
      obtain rfl : first :: more = outcomes := Except.ok.inj whole
      obtain ⟨unasked, places, all⟩ := ih askedMore
      exact ⟨unasked, by simp [place, places], all⟩

end Inquiry

namespace Enforcer

variable {enforcer : Enforcer} {context : Context} {expression : String} {request : List Value}
    {decision : Decision}

/-- By priority or by the priority of subjects, a decision that reports a rule has an outcome for
each of the first rules that are stored, by the priority of subjects for all of them. The rule that
it reports is that of the first matched row with the effect of the verdict, and this row decides
unless it denies and an earlier row of its subject allows. In any case there is a row that decides
and has this effect. -/
theorem Reachable.decide_reports {rule : Rule} (reachable : enforcer.Reachable)
    (ranked : enforcer.selector context = .priority ∨ enforcer.selector context = .subjectPriority)
    (decided : (enforcer.decide context expression request).result = .ok decision)
    (reported : decision.decidedBy = some rule) :
    (∃ unasked, decision.outcomes.map (fun outcome => (outcome.rule, outcome.index)) ++ unasked =
        (enforcer.store.rules context.ptype).zipIdx ∧
      (enforcer.selector context = .subjectPriority → unasked = [])) ∧
    ∃ before outcome after, decision.outcomes = before ++ outcome :: after ∧
      outcome.rule = rule ∧ outcome.isMatched = true ∧ outcome.effect = decision.verdict ∧
      (∀ earlier ∈ before, earlier.isMatched = true → earlier.effect ≠ decision.verdict) ∧
      ((enforcer.selector context).Decides decision.outcomes outcome ↔
        ¬ (enforcer.selector context).Overrules before outcome) ∧
      ∃ decider, (enforcer.selector context).Decides decision.outcomes decider ∧
        decider.effect = decision.verdict := by
  rcases decide_cases decided with ⟨_, rfl⟩ | ⟨_, inquiry, outcomes, _, asked, rfl⟩
  · -- Without an inquiry there is no rule to report.
    cases reported
  generalize enforcer.selector context = selector at ranked asked reported ⊢
  simp only [Decision.ofOutcomes] at reported ⊢
  -- An empty row that stands for missing rules is never reported, so the rows are the stored rules.
  obtain ⟨nonempty, told, member, own⟩ := Decision.mem_of_decidingRule reported
  obtain ⟨_, among, _⟩ := Inquiry.mem_askUntil asked member
  have rows := Inquiry.rows_of_filled among (own ▸ nonempty)
  have filled : ∀ outcome ∈ outcomes, outcome.rule ≠ [] := by
    intro outcome listed
    obtain ⟨_, stored, _⟩ := Inquiry.mem_askUntil asked listed
    exact (reachable.isSound.normal _ _ (rows ▸ stored)).nonempty
  obtain ⟨unasked, places, all⟩ := Inquiry.askUntil_places asked
  refine ⟨⟨unasked, rows ▸ places, fun bySubject => all fun outcome => by
    simp [bySubject, Selector.settles]⟩, ?_⟩
  obtain ⟨decisive, before, outcome, after, split, ownRule, matched, verdict, first⟩ :=
    Decision.decidingRule_eq_some filled reported
  have counts : outcome.isDecisive = true := by
    simp [Outcome.isDecisive, matched, verdict, decisive]
  exact ⟨before, outcome, after, split, ownRule, matched, verdict, first,
    Selector.decides_iff ranked split counts verdict first,
    Selector.exists_decides ranked (by simp [split]) counts⟩

/-- Rules about the data, each for a user with an effect. -/
def gradedWrites (grades : List (String × String)) : List Write := [
  .policy "p"
    (.addMany (.list (grades.map fun grade => .list [.text grade.1, .text "data", .text grade.2])))]

/-- The matcher that compares objects alone is read from its text. -/
theorem readMatchers_graded : readMatchers graded.model.matchers = .ok graded.matchers := by rfl

/-- An enforcer with such rules can be come by, and it decides by the priority of subjects. -/
theorem exists_graded (grades : List (String × String)) (rule : Rule) (outcomes : List Outcome)
    (evaluated :
      (fresh .empty .default graded.model graded.matchers).followRules.result.toOption.map
        (fun start =>
          ((start.writes (gradedWrites grades)).decide .plain "" [.text "data"]).result.toOption.map
            fun decision => (decision.decidedBy, decision.outcomes)) =
        some (some (some rule, outcomes))) :
    ∃ start decision, (create .empty .default graded.model).result = .ok start ∧
      (start.writes (gradedWrites grades)).Reachable ∧
      (start.writes (gradedWrites grades)).selector .plain = .subjectPriority ∧
      ((start.writes (gradedWrites grades)).decide .plain "" [.text "data"]).result = .ok decision ∧
      decision.decidedBy = some rule ∧ decision.outcomes = outcomes := by
  rw [← result_create rfl readMatchers_graded] at evaluated
  obtain ⟨start, created, evaluated⟩ := toOption_map_eq_some.mp evaluated
  obtain ⟨decision, decided, evaluated⟩ := toOption_map_eq_some.mp evaluated
  obtain ⟨reported, outcomes⟩ := Prod.mk.inj evaluated
  -- Writes keep the model, so the selector stays what it is at the start.
  have model : (start.writes (gradedWrites grades)).model = graded.model :=
    (congrArg (·.model) (writes_bare start (gradedWrites grades))).trans (create_starts created).1
  have selector : (start.writes (gradedWrites grades)).selector .plain = .subjectPriority := by
    rw [Enforcer.selector, model]
    decide +kernel
  exact ⟨start, decision, created, (Reachable.of_default created).writes _, selector, decided,
    reported, outcomes⟩

/-- Rules by which a user is denied, although another one is allowed before that and the same one
after it. -/
def deniedWrites : List Write := gradedWrites
    [("alice", "allow"), ("bob", "deny"), ("bob", "allow")]

/-- The rule by which the user is denied is reported, and it decides, as nothing before it overrules
it. -/
theorem Reachable.decide_reports_denied :
    ∃ start decision, (create .empty .default graded.model).result = .ok start ∧
    (start.writes deniedWrites).Reachable ∧
    (start.writes deniedWrites).selector .plain = .subjectPriority ∧
    ((start.writes deniedWrites).decide .plain "" [.text "data"]).result = .ok decision ∧
    decision.decidedBy = some ["bob", "data", "deny"] ∧
    ∃ before outcome after, decision.outcomes = before ++ outcome :: after ∧
      outcome.rule = ["bob", "data", "deny"] ∧ outcome.effect = decision.verdict ∧
      Selector.subjectPriority.Decides decision.outcomes outcome ∧
      ¬Selector.subjectPriority.Overrules before outcome := by
  obtain ⟨start, decision, created, reachable, selector, decided, reported, outcomes⟩ :=
    exists_graded [("alice", "allow"), ("bob", "deny"), ("bob", "allow")] ["bob", "data", "deny"]
      [⟨0, ["alice", "data", "allow"], true, .allow, "alice", none⟩,
        ⟨1, ["bob", "data", "deny"], true, .deny, "bob", none⟩,
        ⟨2, ["bob", "data", "allow"], true, .allow, "bob", none⟩] (by decide +kernel)
  obtain ⟨_, before, outcome, after, split, own, _, verdict, _, decides, _⟩ :=
    reachable.decide_reports (.inr selector) decided reported
  rw [selector] at decides
  have deciding : ∀ outcome ∈ decision.outcomes, outcome.rule = ["bob", "data", "deny"] →
      Selector.subjectPriority.Decides decision.outcomes outcome := by
    rw [outcomes]
    decide
  have standing := deciding outcome (by simp [split]) own
  exact ⟨start, decision, created, reachable, selector, decided, reported, before, outcome,
    after, split, own, verdict, standing, decides.mp standing⟩

/-- Rules by which a user is allowed before the same one is denied, and then another one is
denied. -/
def overruledWrites : List Write := gradedWrites
    [("alice", "allow"), ("alice", "deny"), ("bob", "deny")]

/-- By the priority of subjects a decision reports the first rule that denies, although the same
user is allowed by a rule before it: the user who is denied is another one. -/
theorem overruled_rule_reported : ∃ start decision,
    (create .empty .default graded.model).result = .ok start ∧
    (start.writes overruledWrites).Reachable ∧
    (start.writes overruledWrites).selector .plain = .subjectPriority ∧
    ((start.writes overruledWrites).decide .plain "" [.text "data"]).result = .ok decision ∧
    decision.decidedBy = some ["alice", "data", "deny"] ∧
    (∀ outcome ∈ decision.outcomes, outcome.rule = ["alice", "data", "deny"] →
      ¬Selector.subjectPriority.Decides decision.outcomes outcome) ∧
    ∃ decider, decider.rule = ["bob", "data", "deny"] ∧
      Selector.subjectPriority.Decides decision.outcomes decider := by
  obtain ⟨start, decision, created, reachable, selector, decided, reported, outcomes⟩ :=
    exists_graded [("alice", "allow"), ("alice", "deny"), ("bob", "deny")] ["alice", "data", "deny"]
      [⟨0, ["alice", "data", "allow"], true, .allow, "alice", none⟩,
        ⟨1, ["alice", "data", "deny"], true, .deny, "alice", none⟩,
        ⟨2, ["bob", "data", "deny"], true, .deny, "bob", none⟩] (by decide +kernel)
  refine ⟨start, decision, created, reachable, selector, decided, reported, ?_,
    ⟨2, ["bob", "data", "deny"], true, .deny, "bob", none⟩, rfl, ?_⟩ <;> rw [outcomes] <;> decide

end Enforcer

end AccessControl
