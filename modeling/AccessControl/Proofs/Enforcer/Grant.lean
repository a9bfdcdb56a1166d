import AccessControl.Proofs.Decision.Stopping
import AccessControl.Proofs.Enforcer.Links
import AccessControl.Proofs.Role.Graph

/-! The classic model grants a request exactly by a rule whose subject it reaches through its
groups. -/

namespace AccessControl

/-- A stored grouping rule without a domain, or with an empty one, makes a name a member of a
group. -/
def Joins (rules : List Rule) (member group : String) : Prop :=
  ∃ more, member :: group :: more ∈ rules ∧ more.getLastD "" = ""

/-- The links without a domain are those of such rules. -/
theorem mem_ofRules {rules : List Rule} {member group : String} :
    ⟨member, group, ""⟩ ∈ Link.ofRules rules ↔ Joins rules member group := by
  unfold Link.ofRules
  rw [List.mem_filterMap]
  constructor
  · rintro ⟨rule, stored, linked⟩
    -- Shorter rules stand for no link.
    match rule, linked with
    | first :: second :: more, linked =>
      obtain ⟨rfl, rfl, domain⟩ := Link.mk.inj (Option.some.inj linked)
      exact ⟨more, stored, domain⟩
  · rintro ⟨more, stored, domain⟩
    exact ⟨_, stored, congrArg (fun domain => some (Link.mk member group domain)) domain⟩

/-- A name reaches a target by one step at least and at most so many, along rules without a
domain. -/
def Reaches (rules : List Rule) (most : Nat) (name target : String) : Prop :=
  ∃ length, 1 ≤ length ∧ length ≤ most ∧ Walk (Joins rules) length name target

/-- The selector of the classic model allows exactly if a matched outcome allows. -/
theorem Selector.combine_someAllow {outcomes : List Outcome} :
    someAllow.combine outcomes = .allow ↔
      ∃ outcome ∈ outcomes, outcome.isMatched = true ∧ outcome.effect = .allow := by
  simp [combine, anyEffect]

namespace Enforcer

/-- The enforcer is switched on and has the classic model, whose matcher is read. -/
structure RunsClassic (enforcer : Enforcer) : Prop where
  model : enforcer.model = .classic
  matchers : enforcer.matchers = [("m", classicMatcher)]
  enabled : enforcer.enabled.isTrue = true

variable {enforcer changed : Enforcer} {limit : Bound}

/-- The classic model poses an inquiry about every request of three texts. -/
theorem RunsClassic.inquiry (classic : enforcer.RunsClassic) (subject object action : String) :
    enforcer.inquiry .plain "" [.text subject, .text object, .text action] =
      .ok (classicInquiry enforcer.host enforcer.function? subject object action) := by
  -- Without a text of its own the request is left to the matcher of the model.
  have matcher : enforcer.matcherFor .plain "" = .ok classicMatcher := by
    simp only [matcherFor, classic.matchers]
    rfl
  simp only [Enforcer.inquiry, classic.model, matcher]
  rfl

/-- The classic model selects by some rule that allows. -/
theorem RunsClassic.selector (classic : enforcer.RunsClassic) :
    enforcer.selector .plain = .someAllow := by
  -- The model declares the effect of the usual letter.
  have text : (lookupKey Context.plain.etype enforcer.model.effects).getD enforcer.model.effect =
      Model.defaultEffect := by
    rw [classic.model]
    rfl
  rw [Enforcer.selector, text, ofText_defaultEffect]

/-- The classic model allows what one of its rules grants to a name to which the subject is linked
by the hierarchy that matchers call. -/
theorem RunsClassic.enforce (classic : enforcer.RunsClassic) {h : Hierarchy} {subject : String}
    (called : enforcer.function? "g" = some (enforcer.membership (.hierarchy h)))
    {linked : String → Bool}
    (tells : ∀ target, h.hasLink subject target "" = .ok (linked target)) (object action : String) :
    ∃ allowed,
      (enforcer.enforce [.text subject, .text object, .text action]).result = .ok allowed ∧
        (allowed = true ↔ ∃ rule ∈ enforcer.store.rules "p",
          rule.cell 1 = object ∧ rule.cell 2 = action ∧ linked (rule.cell 0) = true) := by
  -- The matcher has a result for every rule, so the outcomes are known one by one.
  have evaluated : ∀ rule ∈ enforcer.store.rules "p", classicMatcher.holds
      ((classicInquiry enforcer.host enforcer.function? subject object action).environment rule) =
        .ok (linked (rule.cell 0) && (object == rule.cell 1 && action == rule.cell 2)) :=
    fun rule _ => classicMatcher_holds called (tells (rule.cell 0))
  have rows := classicInquiry_rows enforcer.host enforcer.function? subject object action
    (enforcer.store.rules "p")
  have asked := (congrArg (fun rows => (Inquiry.askAll _ 0 rows).result) rows).trans
    (Inquiry.askAll_of_holds (enforcer.store.rules "p") 0 evaluated)
  refine ⟨_, enforce_result classic.enabled (classic.inquiry subject object action) asked, ?_⟩
  -- Every rule allows, so the verdict is to allow if one of the outcomes is matched.
  rw [classic.selector, beq_iff_eq, Selector.combine_someAllow]
  constructor
  · -- A matched outcome is that of a stored rule.
    rintro ⟨outcome, member, isMatched, _⟩
    obtain ⟨⟨rule, index⟩, listed, rfl⟩ := List.mem_map.mp member
    simp only [Bool.and_eq_true, beq_iff_eq] at isMatched
    obtain ⟨isLinked, rfl, rfl⟩ := isMatched
    exact ⟨rule, List.fst_mem_of_mem_zipIdx listed, rfl, rfl, isLinked⟩
  · -- A stored rule has an outcome at its own place.
    rintro ⟨rule, stored, rfl, rfl, isLinked⟩
    obtain ⟨index, place⟩ := List.mem_iff_getElem?.mp stored
    refine ⟨_, List.mem_map.mpr ⟨(rule, index), List.mem_zipIdx_iff_getElem?.mpr place, rfl⟩, ?_,
      ?_⟩
    · simp [isLinked]
    · exact classicInquiry_effectOf enforcer.host enforcer.function? subject (rule.cell 1)
        (rule.cell 2) rule

/-- The enforcer is linked and has the classic model, whose hierarchy has the limit and no tests. -/
structure IsClassic (limit : Bound) (enforcer : Enforcer) : Prop where
  linked : enforcer.IsLinked
  model : enforcer.model = .classic
  matchers : enforcer.matchers = [("m", classicMatcher)]
  enabled : enforcer.enabled.isTrue = true
  plain : (enforcer.roster.find? "g").map RoleManager.clear = some (.ofLimit limit)

/-- The hierarchy of the classic model has the limit and no tests. -/
theorem IsClassic.isPlain (classic : enforcer.IsClassic limit) {h : Hierarchy}
    (found : enforcer.roster.find? "g" = some (.hierarchy h)) : h.limit = limit ∧ h.IsPlain := by
  have cleared := classic.plain
  rw [found] at cleared
  -- Clearing loses nothing but the graph.
  obtain ⟨same, _, names, domains⟩ :=
    Hierarchy.mk.inj (RoleManager.hierarchy.inj (Option.some.inj cleared))
  exact ⟨same, names, domains⟩

/-- Matchers of the classic model call a hierarchy that links a name to itself and all it
reaches. -/
theorem IsClassic.membership (classic : enforcer.IsClassic limit) {most : Nat}
    (counted : limit.count = .ok most) :
    ∃ h, enforcer.function? "g" = some (enforcer.membership (.hierarchy h)) ∧
      ∀ name target, ∃ answer, h.hasLink name target "" = .ok answer ∧
        (answer = true ↔ target = name ∨ Reaches (enforcer.store.rules "g") most name target) := by
  have declared : enforcer.model.isGroupingType "g" = true := by
    rw [classic.model]
    rfl
  obtain ⟨number, h, seat, held, graph, _, called⟩ := classic.linked.bound declared
  have found : enforcer.roster.find? "g" = some (.hierarchy h) := by simp [Roster.find?, seat, held]
  obtain ⟨rfl, plain⟩ := classic.isPlain found
  -- The links of the hierarchy are those of the stored rules, so walks go along these.
  have steps : h.graph.roles.Has "" = Joins (enforcer.store.rules "g") := by
    funext member group
    rw [graph, RoleGraph.ofLinks_has, mem_ofRules]
  refine ⟨h, called, fun name target => ?_⟩
  obtain ⟨answer, asked, tells⟩ := plain.hasLink_eq_ok counted name target ""
  exact ⟨answer, asked, tells.trans (or_congr eq_comm (by rw [steps, Reaches]))⟩

/-- An enforcer of the classic model allows what one of its rules grants to the subject or to a
group that the subject reaches within the limit. -/
theorem IsClassic.enforce (classic : enforcer.IsClassic limit) {most : Nat}
    (counted : limit.count = .ok most) (subject object action : String) :
    ∃ allowed,
      (enforcer.enforce [.text subject, .text object, .text action]).result = .ok allowed ∧
        (allowed = true ↔ ∃ rule ∈ enforcer.store.rules "p",
          rule.cell 1 = object ∧ rule.cell 2 = action ∧
            (rule.cell 0 = subject ∨
              Reaches (enforcer.store.rules "g") most subject (rule.cell 0))) := by
  obtain ⟨h, called, answers⟩ := classic.membership counted
  obtain ⟨linked, tells⟩ := Classical.skolem.mp (answers subject)
  have runs : enforcer.RunsClassic := ⟨classic.model, classic.matchers, classic.enabled⟩
  obtain ⟨allowed, enforced, exactly⟩ :=
    runs.enforce called (fun target => (tells target).1) object action
  simp only [(tells _).2] at exactly
  exact ⟨allowed, enforced, exactly⟩

/-- A linked enforcer that differs in rules and links alone from one of the classic model is one. -/
theorem IsClassic.of_bare (classic : enforcer.IsClassic limit) (linked : changed.IsLinked)
    (same : changed.bare = enforcer.bare) : changed.IsClassic limit where
  linked := linked
  model := (congrArg (·.model) same).trans classic.model
  matchers := (congrArg (·.matchers) same).trans classic.matchers
  enabled := (congrArg (·.enabled.isTrue) same).trans classic.enabled
  plain := (map_clear_of_bare same "g").trans classic.plain

/-- Writes keep the classic model. -/
theorem IsClassic.writes (classic : enforcer.IsClassic limit) (writes : List Write) :
    (enforcer.writes writes).IsClassic limit :=
  classic.of_bare (isLinked_keptByWrites.writes classic.linked writes) (writes_bare enforcer writes)

/-- An enforcer that is made of the classic model has it. -/
theorem create_isClassic [Host] {functions : Registry} {config : Config}
    (builds : config.buildsLinks = true) (enabled : config.enabled.isTrue = true)
    (created : (create functions config .classic).result = .ok enforcer) :
    enforcer.IsClassic config.maxHierarchyLevel := by
  -- Making an enforcer is giving the model to one that has no rules and no managers yet.
  have linked := create_isLinked builds typesApart_classic created
  obtain ⟨matchers, warned, _, read, follows⟩ := setModel_cases created
  obtain rfl := Except.ok.inj (readMatchers_classic.symm.trans read)
  have same := followRules_bare follows
  refine ⟨linked, congrArg (·.model) same, congrArg (·.matchers) same,
    (congrArg (·.enabled.isTrue) same).trans enabled, (map_clear_of_bare same "g").trans ?_⟩
  -- The grouping type of the classic model is new, and so is its manager.
  simp only [refresh, Roster.find?_reseat Roster.empty_isSeated, Roster.find?_empty]
  rfl

/-- After any writes an enforcer of the classic model allows a request exactly if a stored rule
grants its action on its object to the subject, or to a name that the subject reaches within the
limit of steps along the stored grouping rules without a domain. -/
theorem enforce_writes_iff [Host] {functions : Registry} {config : Config} {most : Nat}
    (builds : config.buildsLinks = true) (enabled : config.enabled.isTrue = true)
    (counted : config.maxHierarchyLevel.count = .ok most)
    (created : (create functions config .classic).result = .ok enforcer) (writes : List Write)
    (subject object action : String) :
    ∃ allowed,
      ((enforcer.writes writes).enforce [.text subject, .text object, .text action]).result =
        .ok allowed ∧
      (allowed = true ↔ ∃ rule ∈ (enforcer.writes writes).store.rules "p",
        rule.cell 1 = object ∧ rule.cell 2 = action ∧
          (rule.cell 0 = subject ∨
            Reaches ((enforcer.writes writes).store.rules "g") most subject (rule.cell 0))) :=
  ((create_isClassic builds enabled created).writes writes).enforce counted subject object action

/-- A rule for a group, and a member of that. -/
def groupWrites : List Write := [
  .policy "p" (.add (.list [.text "admin", .text "data", .text "read"])),
  .grouping "g" (.add (.list [.text "alice", .text "admin"]))]

/-- The member may do what the rule grants to the group. -/
theorem enforce_writes_iff_groupWrites :
    Config.default.buildsLinks = true ∧ Config.default.enabled.isTrue = true ∧
      Config.default.maxHierarchyLevel.count = .ok 10 ∧
      ∃ start, (create .empty .default .classic).result = .ok start ∧
        ((start.writes groupWrites).enforce [.text "alice", .text "data", .text "read"]).result =
          .ok true ∧
        ∃ rule ∈ (start.writes groupWrites).store.rules "p",
          rule.cell 1 = "data" ∧ rule.cell 2 = "read" ∧
            (rule.cell 0 = "alice" ∨
              Reaches ((start.writes groupWrites).store.rules "g") 10 "alice" (rule.cell 0)) := by
  obtain ⟨start, created⟩ := create_classic .empty .default
  have reached : (create .empty .default .classic).result.toOption.bind (fun start =>
      ((start.writes groupWrites).enforce
        [.text "alice", .text "data", .text "read"]).result.toOption) = some true := by
    rw [result_create_classic]
    decide +kernel
  obtain ⟨allowed, enforced, tells⟩ :=
    enforce_writes_iff rfl rfl rfl created groupWrites "alice" "data" "read"
  rw [created] at reached
  have isAllowed : allowed = true := by
    simpa [Except.toOption, enforced] using reached
  exact ⟨rfl, rfl, rfl, start, created, isAllowed ▸ enforced, tells.mp isAllowed⟩

end Enforcer

end AccessControl
