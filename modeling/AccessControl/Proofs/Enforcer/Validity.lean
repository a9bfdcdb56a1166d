import AccessControl.Proofs.Enforcer.Operation
import AccessControl.Proofs.Model.Schema

/-! Every enforcer that can be come by has a complete model, and a manager for each grouping type of
it. -/

namespace AccessControl

/-- A complete model declares the type of rules that decisions are about if they are asked for no
other. -/
theorem Model.isPolicyType_of_validate {model : Model} (complete : model.validate = .ok ()) :
    model.isPolicyType "p" = true :=
  lookupKey_isSome.mpr (Model.validate_eq_ok_iff.mp complete).1.policy

namespace Enforcer

/-- The model is complete and its matchers are read, every declared grouping type has a manager of
its own, and there is no negative limit for new ones. Links may be out of date, or never built. -/
structure IsValid (enforcer : Enforcer) : Prop where
  complete : enforcer.model.validate = .ok ()
  matchers : readMatchers enforcer.model.matchers = .ok enforcer.matchers
  seated : enforcer.roster.IsSeated
  managed : ∀ gtype, enforcer.model.isGroupingType gtype = true →
    ∃ manager, enforcer.roster.find? gtype = some manager
  level : enforcer.config.maxHierarchyLevel.isBelow 0 = false

/-- The enforcers that can be come by: those that are made of a model, what operations leave of
them, and what is left after something has been done with a manager behind their back. -/
inductive Reachable : Enforcer → Prop
  | created [Host] {settings : List (String × Value)} {functions : Registry} {config : Config}
    {model : Model} {enforcer : Enforcer} (configured : Config.create settings = .ok config)
    (created : (create functions config model).result = .ok enforcer) : Reachable enforcer
  | stepped {enforcer : Enforcer} (before : Reachable enforcer) (operation : Operation) :
    Reachable (enforcer.step operation)
  | modified {enforcer : Enforcer} (before : Reachable enforcer) (gtype : String)
    (edit : RoleManager.Edit) : Reachable (enforcer.modifyManager gtype (·.edited edit))

variable {enforcer changed : Enforcer}

/-- An enforcer that differs from a valid one in rules and links alone is valid. -/
theorem IsValid.of_bare (valid : enforcer.IsValid) (same : changed.bare = enforcer.bare) :
    changed.IsValid where
  complete := by
    have model : changed.model = enforcer.model := congrArg (·.model) same
    rw [model]
    exact valid.complete
  matchers := by
    have model : changed.model = enforcer.model := congrArg (·.model) same
    have matchers : changed.matchers = enforcer.matchers := congrArg (·.matchers) same
    rw [model, matchers]
    exact valid.matchers
  seated := valid.seated.of_bare (congrArg (·.roster) same)
  managed gtype declared := by
    have model : changed.model = enforcer.model := congrArg (·.model) same
    rw [model] at declared
    obtain ⟨manager, found⟩ := valid.managed gtype declared
    -- A manager is there whether or not it has the links that it had.
    have bare := map_clear_of_bare same gtype
    rw [found] at bare
    obtain ⟨present, isThere, _⟩ := Option.map_eq_some_iff.mp bare
    exact ⟨present, isThere⟩
  level := by
    have config : changed.config = enforcer.config := congrArg (·.config) same
    rw [config]
    exact valid.level

/-- A change to a manager is none to the model, and the manager stays in its place. -/
theorem IsValid.modifyManager (valid : enforcer.IsValid) (gtype : String)
    (change : RoleManager → RoleManager) : (enforcer.modifyManager gtype change).IsValid where
  complete := valid.complete
  matchers := valid.matchers
  seated := valid.seated.congr (by simp [Enforcer.modifyManager]) (by simp [Enforcer.modifyManager])
  managed other declared := by
    obtain ⟨manager, found⟩ := valid.managed other declared
    simp only [Enforcer.modifyManager, Roster.find?_modify valid.seated, found]
    split
    · -- This is the manager that is changed.
      exact ⟨change manager, rfl⟩
    · -- It is another one.
      exact ⟨manager, rfl⟩
  level := valid.level

/-- A model that is accepted makes an enforcer valid. -/
theorem setModel_isValid {model : Model} (seated : enforcer.roster.IsSeated)
    (level : enforcer.config.maxHierarchyLevel.isBelow 0 = false)
    (accepts : (enforcer.setModel model).result = .ok changed) : changed.IsValid := by
  obtain ⟨matchers, warned, complete, read, follows⟩ := setModel_cases accepts
  -- New links at the end change nothing of what makes it valid.
  refine IsValid.of_bare ?_ (followRules_bare follows)
  refine ⟨complete, read, Roster.reseat_isSeated seated _ _, fun gtype declared => ?_, level⟩
  have listed : gtype ∈ model.roles.map (·.1) := lookupKey_isSome.mp declared
  exact ⟨_, by simp only [refresh, Roster.find?_reseat seated, listed, if_true]; rfl⟩

/-- A manager that is given takes its place and leaves all others in theirs. -/
theorem setManager_isValid (valid : enforcer.IsValid) {gtype : String} {manager : RoleManager}
    (sets : (enforcer.setManager gtype manager).result = .ok changed) : changed.IsValid := by
  refine IsValid.of_bare ?_ (relink_bare sets)
  refine ⟨valid.complete, valid.matchers, Roster.install_isSeated valid.seated _ _,
    fun other declared => ?_, valid.level⟩
  obtain ⟨former, found⟩ := valid.managed other declared
  simp only [refresh, Roster.find?_install valid.seated, found]
  split
  · -- The new manager is in place.
    exact ⟨manager, rfl⟩
  · -- All other managers are as they were.
    exact ⟨former, rfl⟩

/-- An operation keeps an enforcer valid, whether it succeeds or fails. -/
theorem IsValid.step (valid : enforcer.IsValid) (operation : Operation) :
    (enforcer.step operation).IsValid := by
  cases operation with
  | write write =>
    -- Writes change rules and links alone.
    exact valid.of_bare (writes_bare enforcer [write])
  -- A new model has managers of its own.
  | setModel model =>
    exact leave_induction valid fun changed made => setModel_isValid valid.seated valid.level made
  -- A new manager takes the place of another one.
  | setManager gtype hierarchy =>
    exact leave_induction valid fun changed made => setManager_isValid valid made
  -- A test is set for one manager.
  | setNameTest gtype label given =>
    refine leave_induction valid fun changed made => ?_
    obtain ⟨h, test, _, rfl⟩ := setNameTest_cases made
    exact valid.modifyManager gtype _
  | setDomainTest gtype label given =>
    refine leave_induction valid fun changed made => ?_
    obtain ⟨h, test, _, rfl⟩ := setDomainTest_cases made
    exact valid.modifyManager gtype _
  -- A function is added to the others.
  | addFunction name given =>
    refine leave_induction valid fun changed made => ?_
    obtain ⟨functions, rfl⟩ := addFunction_cases made
    exact ⟨valid.complete, valid.matchers, valid.seated, valid.managed, valid.level⟩
  -- Nothing else than the switch is changed.
  | enable given => exact ⟨valid.complete, valid.matchers, valid.seated, valid.managed, valid.level⟩

/-- A configuration that is accepted has no negative limit. -/
theorem level_of_create {settings : List (String × Value)} {config : Config}
    (configured : Config.create settings = .ok config) :
    config.maxHierarchyLevel.isBelow 0 = false := by
  simp only [Config.create] at configured
  split at configured
  · -- An unknown name is refused.
    cases configured
  obtain ⟨level, checked, configured⟩ := bind_eq_ok.mp configured
  obtain ⟨threshold, _, configured⟩ := bind_eq_ok.mp configured
  -- The level is kept whether or not there is a limit for workers.
  obtain rfl : level = config.maxHierarchyLevel := by
    split at configured
    · cases configured
      rfl
    · obtain ⟨workers, _, configured⟩ := bind_eq_ok.mp configured
      cases configured
      rfl
  obtain ⟨bound, _, checked⟩ := bind_eq_ok.mp checked
  split at checked
  · -- A level that is too small is refused.
    cases checked
  · rename_i notBelow
    rw [← Except.ok.inj checked]
    simpa using notBelow

/-- Whatever can be come by is valid. -/
theorem Reachable.isValid (reachable : enforcer.Reachable) : enforcer.IsValid := by
  induction reachable with
  -- A new enforcer is valid.
  | created configured created =>
    exact setModel_isValid Roster.empty_isSeated (level_of_create configured) created
  -- Each operation keeps it so.
  | stepped before operation ih => exact ih.step operation
  -- And so does each edit of a manager.
  | modified before gtype edit ih => exact ih.modifyManager gtype _

/-- A model that is accepted has an evaluator of its own. -/
theorem setModel_knowsSeats {model : Model}
    (accepts : (enforcer.setModel model).result = .ok changed) :
    changed.KnowsSeats := by
  obtain ⟨matchers, warned, _, _, follows⟩ := setModel_cases accepts
  -- The evaluator is made after the managers have their seats, and new links leave it.
  exact (knowsSeats_refresh _).of_bare (followRules_bare follows)

/-- A change to a manager leaves it in its seat. -/
theorem KnowsSeats.modifyManager (knows : enforcer.KnowsSeats) (gtype : String)
    (change : RoleManager → RoleManager) : (enforcer.modifyManager gtype change).KnowsSeats := by
  have known : enforcer.evaluator.seats = enforcer.roster.seats := knows
  simp [KnowsSeats, Enforcer.modifyManager, known]

/-- After an operation the evaluator still knows the seats, whether it succeeds or fails. -/
theorem KnowsSeats.step (knows : enforcer.KnowsSeats) (operation : Operation) :
    (enforcer.step operation).KnowsSeats := by
  cases operation with
  -- Writes change rules and links alone.
  | write write => exact knows.of_bare (writes_bare enforcer [write])
  -- The evaluator is made for the managers of the model.
  | setModel model => exact leave_induction knows fun changed made => setModel_knowsSeats made
  | setManager gtype hierarchy =>
    -- The evaluator is made anew for the new manager.
    exact leave_induction knows fun changed made =>
      (knowsSeats_refresh _).of_bare (relink_bare made)
  -- The manager stays in its place.
  | setNameTest gtype label given =>
    refine leave_induction knows fun changed made => ?_
    obtain ⟨h, test, _, rfl⟩ := setNameTest_cases made
    exact knows.modifyManager gtype _
  | setDomainTest gtype label given =>
    refine leave_induction knows fun changed made => ?_
    obtain ⟨h, test, _, rfl⟩ := setDomainTest_cases made
    exact knows.modifyManager gtype _
  -- The evaluator is made anew with the function.
  | addFunction name given =>
    refine leave_induction knows fun changed made => ?_
    obtain ⟨functions, rfl⟩ := addFunction_cases made
    exact knowsSeats_refresh _
  | enable given => exact knows

/-- Whatever can be come by has an evaluator that knows the seats of its managers. -/
theorem Reachable.knowsSeats (reachable : enforcer.Reachable) : enforcer.KnowsSeats := by
  induction reachable with
  | created configured created => exact setModel_knowsSeats created
  | stepped before operation ih => exact ih.step operation
  | modified before gtype edit ih => exact ih.modifyManager gtype _

/-- What is made with the default configuration can be come by. -/
theorem Reachable.of_default [Host] {functions : Registry} {model : Model}
    (created : (create functions .default model).result = .ok enforcer) : enforcer.Reachable :=
  .created (by rfl : Config.create [] = .ok .default) created

/-- What can be come by can be written to. -/
theorem Reachable.writes (reachable : enforcer.Reachable) (writes : List Write) :
    (enforcer.writes writes).Reachable := by
  induction writes generalizing enforcer with
  | nil => exact reachable
  | cons write rest ih => exact ih (reachable.stepped (.write write))

/-- A complete model declares the rules that most of what is asked of an enforcer is about. -/
theorem IsValid.declaresRules (valid : enforcer.IsValid) : enforcer.model.isPolicyType "p" = true :=
  Model.isPolicyType_of_validate valid.complete

end Enforcer

end AccessControl
