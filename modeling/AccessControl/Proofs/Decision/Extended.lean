import AccessControl.Proofs.Decision.Reordered
import AccessControl.Proofs.Decision.Unruled
import AccessControl.Proofs.Rule.Store

/-! Decisions over more rules: what a selector has found among some rules it finds among more of
them. -/

namespace AccessControl

/-! ### More rules -/

/-- The change gives rules to add. -/
inductive Change.Adds : Change → Prop
  | one (rule : Value) : Adds (.add rule)
  | many (rules : Value) : Adds (.addMany rules)

/-- Rules that are added come after the others of their type, and change nothing about other
types. -/
theorem Store.prefix_of_adds {runtime : Runtime} {store next : Store} {ptype : String}
    {change : Change}
    (adds : change.Adds) (applied : store.apply ptype change = .ok (some next)) (other : String) :
    store.rules other <+: next.rules other := by
  -- Whatever is published is the rules of the type with some behind them.
  have appended : ∃ added, next = store.publish ptype (store.rules ptype ++ added) := by
    cases adds with
    | one given =>
      obtain ⟨rule, _, applied⟩ := bind_eq_ok.mp applied
      simp only [pure_eq_ok, Except.ok.injEq] at applied
      split at applied
      · cases applied
      · exact ⟨[rule], (Option.some.inj applied).symm⟩
    | many given =>
      obtain ⟨rules, _, applied⟩ := bind_eq_ok.mp applied
      simp only [pure_eq_ok, Except.ok.injEq] at applied
      split at applied
      · cases applied
      · exact ⟨Text.distinct rules, (Option.some.inj applied).symm⟩
  obtain ⟨added, rfl⟩ := appended
  rw [Store.rules_publish]
  split
  · rename_i same
    exact same ▸ List.prefix_append ..
  · exact List.prefix_rfl

/-! ### Verdicts by the rules that match -/

/-- A first effect that decides stays the first one, whatever comes after it. -/
theorem Evidence.firstDecisive_append {given : List Evidence}
    (decides : ∃ own ∈ given, own.effect.isDecisive = true) (more : List Evidence) :
    firstDecisive (given ++ more) = firstDecisive given := by
  -- The search for an effect that decides ends before it comes to the others.
  obtain ⟨own, member, decisive⟩ := decides
  have found : (given.find? (·.effect.isDecisive)).isSome = true :=
    List.find?_isSome.mpr ⟨own, member, decisive⟩
  unfold firstDecisive
  rw [List.find?_append, Option.or_of_isSome found]

namespace Inquiry

variable {inquiry : Inquiry} {rules : List Rule} {all : List Outcome}

/-- A matched outcome has the effect exactly if a rule matches that has it. -/
theorem anyEffect_askAll (asked : (inquiry.askAll 0 rules).result = .ok all) (effect : Effect) :
    anyEffect effect (all.filter (·.isMatched)) = true ↔
      ∃ rule ∈ rules, inquiry.matchesRule rule = true ∧ inquiry.effectOf rule = effect := by
  rw [Evidence.anyEffect_eq, askAll_evidence _ _ _ asked]
  simp [evidenceOf]

/-- An effect that is found among some rules is found among more of them. -/
theorem anyEffect_mono {others : List Rule} {more : List Outcome}
    (asked : (inquiry.askAll 0 rules).result = .ok all)
    (askedMore : (inquiry.askAll 0 others).result = .ok more)
    (kept : ∀ rule ∈ rules, rule ∈ others) {effect : Effect}
    (found : anyEffect effect (all.filter (·.isMatched)) = true) :
    anyEffect effect (more.filter (·.isMatched)) = true := by
  -- The rule that has it is still there, and it still matches.
  obtain ⟨rule, member, matchedWith⟩ := (anyEffect_askAll asked effect).mp found
  exact (anyEffect_askAll askedMore effect).mpr ⟨rule, kept rule member, matchedWith⟩

/-- Where some rule has to allow, one that does is still among more rules. -/
theorem allowed_mono {others : List Rule} {more : List Outcome}
    (asked : (inquiry.askAll 0 rules).result = .ok all)
    (askedMore : (inquiry.askAll 0 others).result = .ok more)
    (kept : ∀ rule ∈ rules, rule ∈ others)
    (allows : (Selector.someAllow.combine all == .allow) = true) :
    (Selector.someAllow.combine more == .allow) = true := by
  have found : anyEffect .allow (all.filter (·.isMatched)) = true := by
    simpa [Selector.combine] using allows
  simp [Selector.combine, anyEffect_mono asked askedMore kept found]

/-- Where no rule may deny, one that does is still among more rules. -/
theorem refused_mono {others : List Rule} {more : List Outcome}
    (asked : (inquiry.askAll 0 rules).result = .ok all)
    (askedMore : (inquiry.askAll 0 others).result = .ok more)
    (kept : ∀ rule ∈ rules, rule ∈ others)
    (refuses : (Selector.noDeny.combine all == .allow) = false) :
    (Selector.noDeny.combine more == .allow) = false := by
  have found : anyEffect .deny (all.filter (·.isMatched)) = true := by
    simpa [Selector.combine] using refuses
  simp [Selector.combine, anyEffect_mono asked askedMore kept found]

/-- By priority a rule that matches and decides is not overruled by later ones. -/
theorem combine_priority_append {later : List Rule} {more : List Outcome}
    (asked : (inquiry.askAll 0 rules).result = .ok all)
    (askedMore : (inquiry.askAll 0 (rules ++ later)).result = .ok more)
    (decides : ∃ rule ∈ rules, inquiry.matchesRule rule = true ∧
      (inquiry.effectOf rule).isDecisive = true) :
    Selector.priority.combine more = Selector.priority.combine all := by
  have evident : ∃ own ∈ (rules.filter inquiry.matchesRule).map inquiry.evidenceOf,
      own.effect.isDecisive = true := by
    obtain ⟨rule, member, isMatched, decisive⟩ := decides
    exact ⟨_, List.mem_map_of_mem (List.mem_filter.mpr ⟨member, isMatched⟩), decisive⟩
  -- The evidence of all rules is that of the first ones with that of the later ones behind it.
  have told : evidence more = evidence all ++
      (later.filter inquiry.matchesRule).map inquiry.evidenceOf := by
    rw [askAll_evidence _ _ _ askedMore, askAll_evidence _ _ _ asked, List.filter_append,
      List.map_append]
  have same : firstDecisive (more.filter (·.isMatched)) =
      firstDecisive (all.filter (·.isMatched)) := by
    rw [Evidence.firstDecisive_eq, Evidence.firstDecisive_eq]
    refine (congrArg Evidence.firstDecisive told).trans (Evidence.firstDecisive_append ?_ _)
    rwa [askAll_evidence _ _ _ asked]
  simp [Selector.combine, same]

end Inquiry

namespace Enforcer

section

variable {enforcer : Enforcer} {context : Context} {expression : String} {request : List Value}

/-- The matcher reads the schema of the rules, only errors of the matcher come of evaluating it for
them, and some of the rules have a decision. There is one for more rules too. Where some rule has to
allow, a request that was allowed still is; where no rule may deny, one that was refused still is;
and by priority rules behind the others do not change the verdict once a rule matches that
decides. -/
theorem decide_extended {store : Store} {decision : Decision}
    (reads : ∀ inquiry, enforcer.inquiry context expression request = .ok inquiry →
      inquiry.matcher.Reads context.ptype)
    (contained : ∀ inquiry, enforcer.inquiry context expression request = .ok inquiry →
      ∀ rule ∈ store.rules context.ptype, inquiry.Contains rule)
    (kept : ∀ rule ∈ enforcer.store.rules context.ptype, rule ∈ store.rules context.ptype)
    (decided : (enforcer.decide context expression request).result = .ok decision) :
    ∃ later, (decide { enforcer with store := store } context expression request).result =
      .ok later ∧
      (enforcer.selector context = .someAllow → decision.isAllowed = true →
        later.isAllowed = true) ∧
      (enforcer.selector context = .noDeny → decision.isAllowed = false → later.isAllowed = false) ∧
      (enforcer.selector context = .priority →
        enforcer.store.rules context.ptype <+: store.rules context.ptype →
        (∀ inquiry, enforcer.inquiry context expression request = .ok inquiry →
          ∃ rule ∈ enforcer.store.rules context.ptype,
            inquiry.matchesRule rule = true ∧ (inquiry.effectOf rule).isDecisive = true) →
        later.verdict = decision.verdict ∧ later.isAllowed = decision.isAllowed) := by
  by_cases enabled : enforcer.enabled.isTrue = true
  · cases posed : enforcer.inquiry context expression request with
    | error error => simp [decide, enabled, posed] at decided
    | ok inquiry =>
      -- No empty row stands for missing rules, so the rows of both stores are their rules.
      have rows := rows_of_reads posed (reads inquiry posed)
      have each := contained inquiry posed
      have eachOwn : ∀ rule ∈ inquiry.rows (enforcer.store.rules context.ptype),
          inquiry.Contains rule := by
        rw [rows]
        exact fun rule member => each rule (kept rule member)
      have eachLater : ∀ rule ∈ inquiry.rows (store.rules context.ptype),
          inquiry.Contains rule := by
        rwa [rows]
      obtain ⟨own, all, ownDecided, asked, verdict, allowed⟩ :=
        Inquiry.decide_answers (enforcer.selector context) eachOwn
      obtain ⟨later, more, laterDecided, askedMore, laterVerdict, laterAllowed⟩ :=
        Inquiry.decide_answers (enforcer.selector context) eachLater
      -- The decision that was given is that of the inquiry.
      obtain rfl : own = decision :=
        Except.ok.inj ((ownDecided.symm.trans (decide_result enabled posed).symm).trans decided)
      have answered := (@decide_result { enforcer with store := store } context expression request
        inquiry enabled posed).trans laterDecided
      rw [rows] at asked askedMore
      refine ⟨later, answered, ?_⟩
      rw [allowed, laterAllowed, verdict, laterVerdict]
      refine ⟨?someAllow, ?noDeny, ?priority⟩
      case someAllow =>
        intro selected
        rw [selected]
        exact Inquiry.allowed_mono asked askedMore kept
      case noDeny =>
        intro selected
        rw [selected]
        exact Inquiry.refused_mono asked askedMore kept
      case priority =>
        -- The rules that were there come first, and one of them decides.
        rintro selected ⟨added, behind⟩ decides
        rw [← behind] at askedMore
        rw [selected, Inquiry.combine_priority_append asked askedMore (decides inquiry rfl)]
        exact ⟨rfl, rfl⟩
  · -- An enforcer that is switched off does not look at its rules.
    obtain rfl : .unasked request = decision := by simpa [decide, enabled] using decided
    exact ⟨.unasked request, by simp [decide, enabled], fun _ allowed => allowed,
      fun _ refused => refused, fun _ _ _ => ⟨rfl, rfl⟩⟩

end

/-- The rules about two subjects, with a selector. -/
def gradedBy (selector : Selector) : Enforcer :=
  { graded with model := { graded.model with effects := [("e", selector.text)] } }

/-- The store with rules about two more subjects behind the others. -/
def extended : Store :=
  ⟨[("p", [["alice", "data", "allow"], ["alice", "data", "deny"], ["bob", "data", "allow"],
    ["carol", "data", "deny"], ["dave", "data", "allow"]])]⟩

/-- The two rules, as a change. -/
def moreGrades : Change :=
  .addMany (.list [.list [.text "carol", .text "data", .text "deny"],
    .list [.text "dave", .text "data", .text "allow"]])

/-- The rules that are added change none of the verdicts of the selectors that keep theirs. -/
theorem decide_extended_graded :
    graded.store.apply "p" moreGrades = .ok (some extended) ∧
      ∀ answer ∈ [(Selector.someAllow, true), (.noDeny, false), (.priority, true)],
        ∃ decision later,
          (gradedBy answer.1).inquiry .plain "" [.text "data"] = .ok gradedInquiry ∧
          gradedInquiry.matcher.Reads "p" ∧
          (∀ rule ∈ extended.rules "p", gradedInquiry.Contains rule) ∧
          (gradedBy answer.1).selector .plain = answer.1 ∧
          ((gradedBy answer.1).decide .plain "" [.text "data"]).result = .ok decision ∧
          (decide { gradedBy answer.1 with store := extended } .plain "" [.text "data"]).result =
            .ok later ∧
          decision.isAllowed = answer.2 ∧ later.isAllowed = answer.2 := by
  have added : graded.store.apply "p" moreGrades = .ok (some extended) := by decide +kernel
  have behind : graded.store.rules "p" <+: extended.rules "p" :=
    Store.prefix_of_adds (.many _) added "p"
  have reads : gradedInquiry.matcher.Reads "p" :=
    ⟨_, List.mem_singleton_self _, ⟨"p", "obj", []⟩, .equation (.inr .itself), rfl⟩
  have contained : ∀ rule ∈ extended.rules "p", gradedInquiry.Contains rule := by
    have holds : ∀ rule ∈ extended.rules "p",
        (gradedInquiry.matcher.holds (gradedInquiry.environment rule)).isOk = true := by
        decide +kernel
    exact fun rule member => Inquiry.contains_of_isOk (holds rule member)
  have decides : ∃ rule ∈ graded.store.rules "p", gradedInquiry.matchesRule rule = true ∧
      (gradedInquiry.effectOf rule).isDecisive = true := by decide +kernel
  refine ⟨added, fun answer listed => ?_⟩
  have posed : (gradedBy answer.1).inquiry .plain "" [.text "data"] = .ok gradedInquiry := rfl
  have only {inquiry : Inquiry}
      (asked : (gradedBy answer.1).inquiry .plain "" [.text "data"] = .ok inquiry) :
      inquiry = gradedInquiry := (Except.ok.inj (posed.symm.trans asked)).symm
  have facts : ∀ answer ∈ [(Selector.someAllow, true), (.noDeny, false), (.priority, true)],
      (gradedBy answer.1).selector .plain = answer.1 ∧
        ((gradedBy answer.1).decide .plain "" [.text "data"]).result.toOption.map (·.isAllowed) =
          some answer.2 := by decide +kernel
  obtain ⟨selected, answered⟩ := facts answer listed
  obtain ⟨decision, decided, allowed⟩ := toOption_map_eq_some.mp answered
  obtain ⟨later, decidedLater, someAllow, noDeny, priority⟩ :=
    @decide_extended (gradedBy answer.1) .plain "" [.text "data"] extended decision
      (fun _ asked => only asked ▸ reads) (fun _ asked => only asked ▸ contained)
      (fun _ member => behind.subset member) decided
  refine ⟨decision, later, posed, reads, contained, selected, decided, decidedLater, allowed, ?_⟩
  -- Each selector keeps its answer for a reason of its own.
  simp only [List.mem_cons, List.not_mem_nil, or_false] at listed
  rcases listed with rfl | rfl | rfl
  · exact someAllow selected allowed
  · exact noDeny selected allowed
  · obtain ⟨_, same⟩ := priority selected behind fun _ asked => only asked ▸ decides
    exact same.trans allowed

end Enforcer

end AccessControl
