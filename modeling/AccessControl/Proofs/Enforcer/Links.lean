import AccessControl.Proofs.Enforcer.Classic

/-! The links in the managers of an enforcer are those of its stored grouping rules, at all
times. -/

namespace AccessControl

/-- No name is both a policy type and a grouping type. -/
def Model.TypesApart (model : Model) : Prop :=
  ∀ name, model.isPolicyType name = true → model.isGroupingType name = false

/-- A model that an operation brings has its policy types apart from its grouping types. -/
def Operation.TypesApart : Operation → Prop
  | .setModel model => model.TypesApart
  | _ => True

/-- The policy type of the classic model is apart from its grouping type. -/
theorem typesApart_classic : Model.classic.TypesApart := by
  intro name isPolicy
  obtain rfl := isPolicyType_classic.mp isPolicy
  rfl

namespace Enforcer

/-- The manager of a grouping type is a hierarchy with the links of the stored rules. -/
def Follows (enforcer : Enforcer) (gtype : String) : Prop :=
  ∃ h, enforcer.roster.find? gtype = some (.hierarchy h) ∧
    h.graph = .ofLinks (Link.ofRules (enforcer.store.rules gtype))

/-- The enforcer builds links, in hierarchies only, and its matchers call the managers that it
has. -/
structure IsWired (enforcer : Enforcer) : Prop where
  builds : enforcer.config.buildsLinks = true
  apart : enforcer.model.TypesApart
  seated : enforcer.roster.IsSeated
  hierarchies : ∀ gtype manager, enforcer.roster.find? gtype = some manager →
    ∃ h, manager = .hierarchy h
  evaluator : enforcer.evaluator = ⟨enforcer.functions, enforcer.roster.seats⟩

/-- The enforcer is wired, and the links of all its grouping types follow the stored rules. -/
structure IsLinked (enforcer : Enforcer) : Prop extends enforcer.IsWired where
  follows : ∀ gtype, enforcer.model.isGroupingType gtype = true → enforcer.Follows gtype

variable {enforcer changed : Enforcer}

/-- An enforcer that differs from a wired one in rules and links alone is wired. -/
theorem IsWired.of_bare (wired : enforcer.IsWired) (same : changed.bare = enforcer.bare) :
    changed.IsWired where
  builds := (congrArg (·.config.buildsLinks) same).trans wired.builds
  apart := by
    have model : changed.model = enforcer.model := congrArg (·.model) same
    exact model ▸ wired.apart
  seated := wired.seated.of_bare (congrArg (·.roster) same)
  hierarchies gtype manager found := by
    have bare := map_clear_of_bare same gtype
    rw [found] at bare
    -- Without its links the manager is one of a wired enforcer, and so it is a hierarchy.
    obtain ⟨former, before, cleared⟩ := Option.map_eq_some_iff.mp bare.symm
    obtain ⟨h, rfl⟩ := wired.hierarchies gtype former before
    cases manager with
    | hierarchy h => exact ⟨h, rfl⟩
    | direct links => cases cleared
  evaluator := by
    -- The evaluator is none of the rules and links, and neither is what it was made of.
    have functions : changed.functions = enforcer.functions := congrArg (·.functions) same
    have seats : changed.roster.seats = enforcer.roster.seats := congrArg (·.roster.seats) same
    rw [functions, seats]
    exact (congrArg (·.evaluator) same).trans wired.evaluator

/-- Under the name of a grouping type matchers call its manager, which has the links of its
rules. -/
theorem IsLinked.bound (linked : enforcer.IsLinked) {gtype : String}
    (declared : enforcer.model.isGroupingType gtype = true) :
    ∃ number h, lookupKey gtype enforcer.roster.seats = some number ∧
      enforcer.roster.held[number]? = some (.hierarchy h) ∧
      h.graph = .ofLinks (Link.ofRules (enforcer.store.rules gtype)) ∧
      lookupKey gtype enforcer.evaluator.seats = some number ∧
      enforcer.function? gtype = some (enforcer.membership (.hierarchy h)) := by
  obtain ⟨h, found, graph⟩ := linked.follows gtype declared
  obtain ⟨number, seat, held⟩ := Roster.seat_of_find? found
  -- The evaluator was made of the seats that there are now.
  have called : lookupKey gtype enforcer.evaluator.seats = some number := by
    rw [linked.evaluator]
    exact seat
  exact ⟨number, h, seat, held, graph, called, by simp [function?, called, held]⟩

/-! ### New links -/

/-- New links for a grouping type follow its rules, and other links follow theirs as before. -/
theorem relink_follows (wired : enforcer.IsWired) {gtype : String}
    (relinks : (enforcer.relink gtype).result = .ok changed) :
    changed.Follows gtype ∧
      ∀ other, other ≠ gtype → enforcer.Follows other → changed.Follows other := by
  obtain ⟨⟨manager, found⟩, rfl⟩ := relink_cases relinks
  obtain ⟨h, rfl⟩ := wired.hierarchies gtype manager found
  -- The graph is made of the rules from nothing, so it does not matter what was in it.
  refine ⟨⟨{ h with graph := .ofLinks (Link.ofRules (enforcer.store.rules gtype)) }, ?_, rfl⟩,
    fun other different ⟨own, present, graph⟩ => ⟨own, ?_, graph⟩⟩
  · simp [modifyManager, Roster.find?_modify wired.seated, found, relinked, RoleManager.rebuilt]
  · simp [modifyManager, Roster.find?_modify wired.seated, different, present]

/-- New links for all managers follow the rules wherever there is a manager. -/
theorem followRules_follows (wired : enforcer.IsWired)
    (follows : enforcer.followRules.result = .ok changed) {gtype : String}
    (managed : ∃ manager, enforcer.roster.find? gtype = some manager) : changed.Follows gtype := by
  obtain ⟨manager, found⟩ := managed
  obtain ⟨h, rfl⟩ := wired.hierarchies gtype manager found
  simp only [followRules, wired.builds, if_true] at follows
  obtain rfl := Except.ok.inj ((buildLinks_result enforcer).symm.trans follows)
  -- All managers are changed in turn, but each of them once and by the rules of its own type.
  refine ⟨{ h with graph := .ofLinks (Link.ofRules (enforcer.store.rules gtype)) }, ?_, rfl⟩
  simp [Roster.find?_modifyAll wired.seated, found, relinked, RoleManager.rebuilt]

/-- New links for all managers make a wired enforcer linked if its grouping types have managers. -/
theorem followRules_isLinked (wired : enforcer.IsWired)
    (managed : ∀ gtype, enforcer.model.isGroupingType gtype = true →
      ∃ manager, enforcer.roster.find? gtype = some manager)
    (follows : enforcer.followRules.result = .ok changed) : changed.IsLinked where
  toIsWired := wired.of_bare (followRules_bare follows)
  follows gtype declared := by
    have model : changed.model = enforcer.model := congrArg (·.model) (followRules_bare follows)
    exact followRules_follows wired follows (managed gtype (model ▸ declared))

/-- The grouping types of a linked enforcer have managers. -/
theorem IsLinked.managed (linked : enforcer.IsLinked) (gtype : String)
    (declared : enforcer.model.isGroupingType gtype = true) :
    ∃ manager, enforcer.roster.find? gtype = some manager := by
  obtain ⟨h, found, _⟩ := linked.follows gtype declared
  exact ⟨_, found⟩

/-! ### Operations -/

/-- A change to the rules of a policy type is none to those of a grouping type. -/
theorem changePolicy_isLinked (linked : enforcer.IsLinked) {ptype : String} {change : Change}
    {isDone : Bool}
    (changes : (enforcer.changePolicy ptype change).result = .ok (changed, isDone)) :
    changed.IsLinked where
  toIsWired := linked.of_bare (changePolicy_bare changes)
  follows gtype declared := by
    obtain rfl | ⟨isPolicy, rules, rfl⟩ := changePolicy_cases changes
    · exact linked.follows gtype declared
    · -- The published rules are those of a policy type, which is no grouping type.
      obtain ⟨h, found, graph⟩ := linked.follows gtype declared
      have different : gtype ≠ ptype := by
        rintro rfl
        simp [linked.apart gtype isPolicy] at declared
      exact ⟨h, found, by simpa [Store.rules_publish, different] using graph⟩

/-- A change to the rules of a grouping type is followed by its links. -/
theorem changeGrouping_isLinked (linked : enforcer.IsLinked) {gtype : String} {change : Change}
    {isDone : Bool}
    (changes : (enforcer.changeGrouping gtype change).result = .ok (changed, isDone)) :
    changed.IsLinked where
  toIsWired := linked.of_bare (changeGrouping_bare changes)
  follows other declared := by
    have model : changed.model = enforcer.model := congrArg (·.model) (changeGrouping_bare changes)
    obtain rfl | ⟨_, rules, relinks⟩ := changeGrouping_cases changes
    · exact linked.follows other declared
    simp only [linked.builds, if_true] at relinks
    -- The rules are published before the links are new, and the managers stay until then.
    have wired : IsWired { enforcer with store := enforcer.store.publish gtype rules } :=
      linked.of_bare rfl
    obtain ⟨own, others⟩ := relink_follows wired relinks
    by_cases same : other = gtype
    · exact same ▸ own
    · obtain ⟨h, found, graph⟩ := linked.follows other (model ▸ declared)
      exact others other same ⟨h, found, by simpa [Store.rules_publish, same] using graph⟩

/-- Without rules no links are left. -/
theorem clearRules_isLinked (linked : enforcer.IsLinked) : enforcer.clearRules.IsLinked where
  toIsWired := linked.of_bare (clearRules_bare enforcer)
  follows gtype declared := by
    obtain ⟨h, found, _⟩ := linked.follows gtype declared
    refine ⟨{ h with graph := .empty }, ?_, rfl⟩
    simp [clearRules, linked.builds, Roster.find?_modifyAll linked.seated, found, RoleManager.clear]

/-- Writes keep an enforcer linked. -/
theorem isLinked_keptByWrites : KeptByWrites IsLinked where
  policy linked changes := changePolicy_isLinked linked changes
  grouping linked changes := changeGrouping_isLinked linked changes
  load {enforcer changed _ _} linked loads := by
    obtain ⟨store, follows⟩ := load_cases loads
    have wired : IsWired { enforcer with store := store } := linked.of_bare rfl
    exact followRules_isLinked wired linked.managed follows
  clear := clearRules_isLinked
  build {enforcer changed} linked builds := by
    have follows : enforcer.followRules.result = .ok changed := by
      simpa only [followRules, linked.builds, if_true] using builds
    exact followRules_isLinked linked.toIsWired linked.managed follows

/-- A model that is accepted makes an enforcer linked that builds links in hierarchies. -/
theorem setModel_isLinked {model : Model} (apart : model.TypesApart)
    (builds : enforcer.config.buildsLinks = true) (seated : enforcer.roster.IsSeated)
    (hierarchies : ∀ gtype manager, enforcer.roster.find? gtype = some manager →
      ∃ h, manager = .hierarchy h)
    (accepts : (enforcer.setModel model).result = .ok changed) : changed.IsLinked := by
  obtain ⟨matchers, warned, _, _, follows⟩ := setModel_cases accepts
  -- The rules stay when the model goes, and the links are made of them for the managers of the new
  -- one.
  refine followRules_isLinked ?_ (fun gtype declared => ?_) follows
  · refine ⟨builds, apart, Roster.reseat_isSeated seated _ _, fun gtype manager found => ?_, rfl⟩
    simp only [refresh, Roster.find?_reseat seated] at found
    split at found
    · -- The manager is the one before or a new hierarchy.
      cases before : enforcer.roster.find? gtype with
      | none =>
        obtain rfl : RoleManager.ofLimit _ = manager := by simpa [before] using found
        exact ⟨_, rfl⟩
      | some former =>
        obtain rfl : former = manager := by simpa [before] using found
        exact hierarchies gtype former before
    · cases found
  · -- Every declared type is listed in the new roster.
    have listed : gtype ∈ model.roles.map (·.1) := lookupKey_isSome.mp declared
    exact ⟨_, by simp only [refresh, Roster.find?_reseat seated, listed, if_true]; rfl⟩

/-- A change to what a hierarchy is asked with is none to its links. -/
theorem modifyManager_isLinked (linked : enforcer.IsLinked) {gtype : String}
    {h changedTo : Hierarchy}
    (found : enforcer.roster.find? gtype = some (.hierarchy h))
    (graph : changedTo.graph = h.graph) :
    (enforcer.modifyManager gtype fun _ => .hierarchy changedTo).IsLinked where
  builds := linked.builds
  apart := linked.apart
  seated := linked.seated.congr (by simp [modifyManager]) (by simp [modifyManager])
  hierarchies other manager present := by
    simp only [modifyManager, Roster.find?_modify linked.seated] at present
    split at present
    · -- Under the given type the changed hierarchy is found.
      rename_i same
      rw [same, found] at present
      exact ⟨changedTo, (Option.some.inj present).symm⟩
    · exact linked.hierarchies other manager present
  evaluator := by simpa [modifyManager] using linked.evaluator
  follows other declared := by
    obtain ⟨own, present, follows⟩ := linked.follows other declared
    by_cases same : other = gtype
    · -- The changed manager has the graph of the one before it.
      subst same
      obtain rfl : own = h := by simpa [found, eq_comm] using present
      exact ⟨changedTo, by simp [modifyManager, Roster.find?_modify linked.seated, found],
        graph.trans follows⟩
    · exact ⟨own, by simp [modifyManager, Roster.find?_modify linked.seated, same, present],
        follows⟩

/-- A new hierarchy gets the links of its grouping type, and matchers call it from then on. -/
theorem setManager_isLinked (linked : enforcer.IsLinked) {gtype : String} {h : Hierarchy}
    (sets : (enforcer.setManager gtype (.hierarchy h)).result = .ok changed) :
    changed.IsLinked := by
  -- The evaluator is made after the manager is installed and before it has its links.
  have wired : (refresh { enforcer with
      roster := enforcer.roster.install gtype (.hierarchy h) }).IsWired := by
    refine ⟨linked.builds, linked.apart, Roster.install_isSeated linked.seated _ _,
      fun other manager found => ?_, rfl⟩
    simp only [refresh, Roster.find?_install linked.seated] at found
    split at found
    · exact ⟨h, (Option.some.inj found).symm⟩
    · exact linked.hierarchies other manager found
  -- The new links are those of the given type, so the other types are followed as before.
  obtain ⟨own, others⟩ := relink_follows wired sets
  have model : changed.model = enforcer.model := congrArg (·.model) (relink_bare sets)
  refine ⟨wired.of_bare (relink_bare sets), fun other declared => ?_⟩
  by_cases same : other = gtype
  · exact same ▸ own
  · obtain ⟨former, found, graph⟩ := linked.follows other (model ▸ declared)
    have kept : (refresh { enforcer with
        roster := enforcer.roster.install gtype (.hierarchy h) }).Follows other :=
      ⟨former, by simp [refresh, Roster.find?_install linked.seated, same, found], graph⟩
    exact others other same kept

/-- An operation keeps an enforcer linked, whether it succeeds or fails. -/
theorem step_isLinked (linked : enforcer.IsLinked) {operation : Operation}
    (apart : operation.TypesApart) : (enforcer.step operation).IsLinked := by
  -- An operation that fails leaves the linked enforcer before it, so only what it makes is looked
  -- at.
  cases operation with
  | write write => exact isLinked_keptByWrites.write linked write
  | setModel model =>
    exact leave_induction linked fun changed made =>
      setModel_isLinked apart linked.builds linked.seated linked.hierarchies made
  | setManager gtype hierarchy =>
    exact leave_induction linked fun changed made => setManager_isLinked linked made
  | setNameTest gtype label given =>
    refine leave_induction linked fun changed made => ?_
    obtain ⟨h, test, found, rfl⟩ := setNameTest_cases made
    exact modifyManager_isLinked linked found rfl
  | setDomainTest gtype label given =>
    refine leave_induction linked fun changed made => ?_
    obtain ⟨h, test, found, rfl⟩ := setDomainTest_cases made
    exact modifyManager_isLinked linked found rfl
  | addFunction name given =>
    refine leave_induction linked fun changed made => ?_
    obtain ⟨functions, rfl⟩ := addFunction_cases made
    -- The evaluator is made anew, of the other functions and the same seats.
    exact ⟨⟨linked.builds, linked.apart, linked.seated, linked.hierarchies, rfl⟩, linked.follows⟩
  | enable given =>
    exact ⟨⟨linked.builds, linked.apart, linked.seated, linked.hierarchies, linked.evaluator⟩,
      linked.follows⟩

/-- Operations in a row keep an enforcer linked. -/
theorem run_isLinked (linked : enforcer.IsLinked) {operations : List Operation}
    (apart : ∀ operation ∈ operations, operation.TypesApart) :
    (enforcer.run operations).IsLinked := by
  -- Every step starts from a linked enforcer again, whatever the steps before it were.
  induction operations generalizing enforcer with
  | nil => exact linked
  | cons operation rest ih =>
    exact ih (step_isLinked linked (apart operation (by simp)))
      fun later member => apart later (by simp [member])

/-- An enforcer is linked from the start. -/
theorem create_isLinked [Host] {functions : Registry} {config : Config} {model : Model}
    (builds : config.buildsLinks = true) (apart : model.TypesApart)
    (created : (create functions config model).result = .ok enforcer) : enforcer.IsLinked :=
  setModel_isLinked apart builds Roster.empty_isSeated (by simp) created

/-- After any run of operations every declared grouping type has a manager with exactly the graph of
the links of its stored rules, and under its name matchers call this very manager. -/
theorem run_manager_eq_ofLinks [Host] {functions : Registry} {config : Config} {model : Model}
    (builds : config.buildsLinks = true) (apart : model.TypesApart)
    (created : (create functions config model).result = .ok enforcer) {operations : List Operation}
    (brought : ∀ operation ∈ operations, operation.TypesApart) (gtype : String)
    (declared : (enforcer.run operations).model.isGroupingType gtype = true) :
    ∃ number h, lookupKey gtype (enforcer.run operations).roster.seats = some number ∧
      (enforcer.run operations).roster.held[number]? = some (.hierarchy h) ∧
      h.graph = .ofLinks (Link.ofRules ((enforcer.run operations).store.rules gtype)) ∧
      lookupKey gtype (enforcer.run operations).evaluator.seats = some number ∧
      (enforcer.run operations).function? gtype =
        some ((enforcer.run operations).membership (.hierarchy h)) :=
  (run_isLinked (create_isLinked builds apart created) brought).bound declared

/-- A rule, another manager, and a rule that cannot be removed. -/
def managerChange : List Operation := [
  .write (.grouping "g" (.add (.list [.text "alice", .text "admin"]))),
  .setManager "g" ⟨.whole 1, .empty, none, none⟩,
  .write (.grouping "g" (.remove (.list [.text "bob", .text "admin"])))]

/-- Matchers call the other manager, which has got the link of the rule. -/
theorem run_manager_eq_ofLinks_managerChange :
    Config.default.buildsLinks = true ∧ Model.classic.TypesApart ∧
      ∃ start, (create .empty .default .classic).result = .ok start ∧
        (∀ operation ∈ managerChange, operation.TypesApart) ∧
        (start.run managerChange).model.isGroupingType "g" = true ∧
        ∃ number h, lookupKey "g" (start.run managerChange).roster.seats = some number ∧
          (start.run managerChange).roster.held[number]? = some (.hierarchy h) ∧
          h.graph = .ofLinks [⟨"alice", "admin", ""⟩] ∧
          lookupKey "g" (start.run managerChange).evaluator.seats = some number ∧
          (start.run managerChange).function? "g" =
            some ((start.run managerChange).membership (.hierarchy h)) := by
  obtain ⟨start, created⟩ := create_classic .empty .default
  have brought : ∀ operation ∈ managerChange, operation.TypesApart := by
    simp [managerChange, Operation.TypesApart]
  have reached : (create .empty .default .classic).result.toOption.map (fun start =>
      ((start.run managerChange).model.isGroupingType "g",
        (start.run managerChange).store.rules "g")) =
      some (true, [["alice", "admin"]]) := by
    rw [result_create_classic]
    decide +kernel
  rw [created] at reached
  obtain ⟨declared, stored⟩ := Prod.mk.inj (Option.some.inj reached)
  obtain ⟨number, h, seat, held, graph, called⟩ :=
    run_manager_eq_ofLinks rfl typesApart_classic created brought "g" declared
  rw [stored] at graph
  exact ⟨rfl, typesApart_classic, start, created, brought, declared, number, h, seat, held, graph,
    called⟩

end Enforcer

end AccessControl
