import AccessControl.Enforcer.Membership
import AccessControl.Proofs.Journal
import AccessControl.Proofs.Role.Roster
import AccessControl.Proofs.Rule.Store

/-! What an enforcer can be asked to do, one operation after the other, and what writes leave
alone. -/

namespace AccessControl

/-- A write to the rules of an enforcer, or a new start for its links. -/
inductive Write
  | policy (ptype : String) (change : Change)
  | grouping (gtype : String) (change : Change)
  | both (grouping policy : Change)
  | load (policies groupings : List (String × Value))
  | clear
  | build

/-- An operation that changes an enforcer; the managers it is given are hierarchies. -/
inductive Operation
  | write (write : Write)
  | setModel (model : Model)
  | setManager (gtype : String) (hierarchy : Hierarchy)
  | setNameTest (gtype label : String) (given : Option Callable)
  | setDomainTest (gtype label : String) (given : Option Callable)
  | addFunction (name : String) (given : Option Callable)
  | enable (given : Value)

/-- What can be done with a role manager itself. -/
inductive RoleManager.Edit
  | clear
  | addLink (link : Link)
  | removeLink (link : Link)
  | rebuild (given : List Link)
  | setNameTest (label : String) (given : Option Callable)
  | setDomainTest (label : String) (given : Option Callable)

/-- The manager after that is done; a test that is refused leaves it as it was. -/
def RoleManager.edited (manager : RoleManager) : Edit → RoleManager
  | .clear => manager.clear
  | .addLink link => manager.addLink link
  | .removeLink link => (manager.removeLink link).1
  | .rebuild given => manager.rebuilt given
  | .setNameTest label given => (manager.setNameTest label given).toOption.getD manager
  | .setDomainTest label given => (manager.setDomainTest label given).toOption.getD manager

namespace Enforcer

/-- What an attempt leaves: the enforcer that it makes, or the one before it if it fails. -/
def leave (enforcer : Enforcer) (attempt : Except Error Enforcer) : Enforcer :=
  match attempt with
  | .ok changed => changed
  | .error _ => enforcer

/-- The enforcer after a write, whether it succeeds, has nothing to do or fails. Of two changes in a
row the first one stays if the second one fails. -/
def write (enforcer : Enforcer) : Write → Enforcer
  | .policy ptype change => enforcer.leave ((enforcer.changePolicy ptype change).result.map (·.1))
  | .grouping gtype change => enforcer.leave
    ((enforcer.changeGrouping gtype change).result.map (·.1))
  | .both grouping policy =>
    match (enforcer.changeGrouping "g" grouping).result with
    | .ok (changed, _) => changed.leave ((changed.changePolicy "p" policy).result.map (·.1))
    | .error _ => enforcer
  | .load policies groupings => enforcer.leave (enforcer.load policies groupings).result
  | .clear => enforcer.clearRules
  | .build => enforcer.leave enforcer.buildLinks.result

/-- The enforcer after an operation, whether it succeeds or fails. -/
def step (enforcer : Enforcer) : Operation → Enforcer
  | .write write => enforcer.write write
  | .setModel model => enforcer.leave (enforcer.setModel model).result
  | .setManager gtype hierarchy =>
    enforcer.leave (enforcer.setManager gtype (.hierarchy hierarchy)).result
  | .setNameTest gtype label given => enforcer.leave (enforcer.setNameTest gtype label given)
  | .setDomainTest gtype label given => enforcer.leave (enforcer.setDomainTest gtype label given)
  | .addFunction name given => enforcer.leave (enforcer.addFunction name given)
  | .enable given => { enforcer with enabled := given }

/-- The enforcer after writes in a row. -/
def writes (enforcer : Enforcer) (writes : List Write) : Enforcer :=
  writes.foldl write enforcer

/-- The enforcer after operations in a row. -/
def run (enforcer : Enforcer) (operations : List Operation) : Enforcer :=
  operations.foldl step enforcer

variable {enforcer changed : Enforcer}

/-- Whatever holds before an attempt and for what it makes holds for what it leaves. -/
theorem leave_induction {motive : Enforcer → Prop} {attempt : Except Error Enforcer}
    (before : motive enforcer) (made : ∀ changed, attempt = .ok changed → motive changed) :
    motive (enforcer.leave attempt) := by
  cases attempt with
  -- The attempt has succeeded.
  | ok changed => exact made changed rfl
  -- What was there is left.
  | error error => exact before

/-- What changes to the rules are made of keeps a property of enforcers: each change that succeeds,
a load that does and the loss of all rules. -/
structure KeptByChanges (property : Enforcer → Prop) : Prop where
  policy : ∀ {enforcer changed ptype change isDone}, property enforcer →
    (enforcer.changePolicy ptype change).result = .ok (changed, isDone) → property changed
  grouping : ∀ {enforcer changed gtype change isDone}, property enforcer →
    (enforcer.changeGrouping gtype change).result = .ok (changed, isDone) → property changed
  load : ∀ {enforcer changed policies groupings}, property enforcer →
    (enforcer.load policies groupings).result = .ok changed → property changed
  clear : ∀ {enforcer}, property enforcer → property enforcer.clearRules

/-- What writes are made of keeps a property of enforcers: changes to the rules and new links. -/
structure KeptByWrites (property : Enforcer → Prop) : Prop extends KeptByChanges property where
  build : ∀ {enforcer changed}, property enforcer →
    enforcer.buildLinks.result = .ok changed → property changed

/-- A property that changes to the rules keep is kept by every write but new links, whether it
succeeds or fails. -/
theorem KeptByChanges.write {property : Enforcer → Prop} (kept : KeptByChanges property)
    (holds : property enforcer) {write : Write} (changes : write ≠ .build) :
    property (enforcer.write write) := by
  -- A part that fails leaves what was there before it, where the property holds already.
  cases write with
  | policy ptype change =>
    refine leave_induction holds fun changed made => ?_
    obtain ⟨isDone, changes⟩ := map_fst_eq_ok.mp made
    exact kept.policy holds changes
  | grouping gtype change =>
    refine leave_induction holds fun changed made => ?_
    obtain ⟨isDone, changes⟩ := map_fst_eq_ok.mp made
    exact kept.grouping holds changes
  | both grouping policy =>
    simp only [Enforcer.write]
    split
    · -- The second change starts from what the first one made, and leaves that if it fails.
      rename_i between _ first
      have halfway := kept.grouping holds first
      refine leave_induction halfway fun changed made => ?_
      obtain ⟨isDone, changes⟩ := map_fst_eq_ok.mp made
      exact kept.policy halfway changes
    · -- The first change has failed, so the second is not tried.
      exact holds
  | load policies groupings => exact leave_induction holds fun changed made => kept.load holds made
  | clear => exact kept.clear holds
  | build => exact absurd rfl changes

/-- A property that the parts of writes keep is kept by every write, whether it succeeds or
fails. -/
theorem KeptByWrites.write {property : Enforcer → Prop} (kept : KeptByWrites property)
    (holds : property enforcer) (write : Write) : property (enforcer.write write) := by
  by_cases builds : write = .build
  · -- Only this one builds the links.
    subst builds
    exact leave_induction holds fun changed made => kept.build holds made
  · exact kept.toKeptByChanges.write holds builds

/-- A property that the parts of writes keep is kept by writes in a row. -/
theorem KeptByWrites.writes {property : Enforcer → Prop} (kept : KeptByWrites property)
    (holds : property enforcer) (writes : List Write) : property (enforcer.writes writes) := by
  -- Every write starts from an enforcer with the property again.
  induction writes generalizing enforcer with
  | nil => exact holds
  | cons write rest ih => exact ih (kept.write holds write)

/-! ### What the parts of an operation do -/

/-- The store after a change that takes place has other rules of one type. -/
theorem changedStore_eq_publish {ptype : String} {change : Change} {store : Store}
    (applied : enforcer.changedStore ptype change = .ok (some store)) :
    ∃ rules, store = enforcer.store.publish ptype rules :=
  Store.apply_eq_publish applied

/-- A change to the rules of a policy type publishes rules for it, or changes nothing. -/
theorem changePolicy_cases {ptype : String} {change : Change} {isDone : Bool}
    (changes : (enforcer.changePolicy ptype change).result = .ok (changed, isDone)) :
    changed = enforcer ∨ enforcer.model.isPolicyType ptype = true ∧
      ∃ rules, changed = { enforcer with store := enforcer.store.publish ptype rules } := by
  simp only [changePolicy] at changes
  split at changes
  · rename_i declared
    obtain ⟨stored, applied, changes⟩ := Logged.bind_ok.mp changes
    cases stored with
    | none =>
      -- There is nothing to change.
      obtain ⟨rfl, _⟩ := Prod.mk.inj (Except.ok.inj changes)
      exact .inl rfl
    -- The rules of the type are new.
    | some store =>
      obtain ⟨rfl, _⟩ := Prod.mk.inj (Except.ok.inj changes)
      obtain ⟨rules, rfl⟩ := changedStore_eq_publish applied
      exact .inr ⟨declared, rules, rfl⟩
  · -- The type is not declared.
    cases changes

/-- The manager that is asked for is the one in the roster. -/
theorem manager_eq_ok {gtype : String} {manager : RoleManager} :
    enforcer.manager gtype = .ok manager ↔ enforcer.roster.find? gtype = some manager := by
  unfold Enforcer.manager
  split <;> simp_all

/-- New links for one grouping type change its manager, which is there. -/
theorem relink_cases {gtype : String} (relinks : (enforcer.relink gtype).result = .ok changed) :
    (∃ manager, enforcer.roster.find? gtype = some manager) ∧
      changed = enforcer.modifyManager gtype fun manager =>
        (enforcer.relinked gtype manager).1 := by
  -- Only the manager that is asked for can be missing.
  obtain ⟨manager, found, relinks⟩ := Logged.bind_ok.mp relinks
  obtain ⟨_, _, relinks⟩ := Logged.bind_ok.mp relinks
  exact ⟨⟨manager, manager_eq_ok.mp found⟩, (Except.ok.inj relinks).symm⟩

/-- A change to the rules of a grouping type publishes rules for it and, if the configuration asks
for that, links them anew, or it changes nothing. -/
theorem changeGrouping_cases {gtype : String} {change : Change} {isDone : Bool}
    (changes : (enforcer.changeGrouping gtype change).result = .ok (changed, isDone)) :
    changed = enforcer ∨ enforcer.model.isGroupingType gtype = true ∧ ∃ rules,
      if enforcer.config.buildsLinks then
        (relink { enforcer with store := enforcer.store.publish gtype rules } gtype).result =
          .ok changed
      else changed = { enforcer with store := enforcer.store.publish gtype rules } := by
  simp only [changeGrouping] at changes
  split at changes
  · rename_i declared
    obtain ⟨stored, applied, changes⟩ := Logged.bind_ok.mp changes
    cases stored with
    -- There is nothing to change.
    | none =>
      obtain ⟨rfl, _⟩ := Prod.mk.inj (Except.ok.inj changes)
      exact .inl rfl
    | some store =>
      -- The links are made anew only after the rules are published.
      obtain ⟨rules, rfl⟩ := changedStore_eq_publish applied
      refine .inr ⟨declared, rules, ?_⟩
      by_cases builds : enforcer.config.buildsLinks = true
      · -- The links are made anew.
        simp only [builds, if_true] at changes ⊢
        obtain ⟨linked, relinks, changes⟩ := Logged.bind_ok.mp changes
        obtain ⟨rfl, _⟩ := Prod.mk.inj (Except.ok.inj changes)
        exact relinks
      · -- Nothing is done about the links.
        simp only [builds] at changes ⊢
        obtain ⟨rfl, _⟩ := Prod.mk.inj (Except.ok.inj changes)
        rfl
  · -- The type is not declared.
    cases changes

/-- New links for all managers never fail. -/
theorem buildLinks_result (enforcer : Enforcer) :
    enforcer.buildLinks.result = .ok { enforcer with
      roster := enforcer.roster.modifyAll fun gtype manager =>
        (enforcer.relinked gtype manager).1 } :=
  rfl

/-- New links never fail, whether or not the configuration asks for them. -/
theorem followRules_ok (enforcer : Enforcer) :
    ∃ changed, enforcer.followRules.result = .ok changed := by
  unfold followRules
  split
  · -- The links are built of all rules.
    exact ⟨_, buildLinks_result enforcer⟩
  · -- The links are left.
    exact ⟨enforcer, rfl⟩

/-- A load that succeeds replaces the rules and, if the configuration asks for that, links them
anew. -/
theorem load_cases {policies groupings : List (String × Value)}
    (loads : (enforcer.load policies groupings).result = .ok changed) :
    ∃ store, (followRules { enforcer with store := store }).result = .ok changed := by
  -- The checks of the types change nothing, and neither does the record at the end.
  obtain ⟨_, _, loads⟩ := Logged.bind_ok.mp loads
  obtain ⟨_, _, loads⟩ := Logged.bind_ok.mp loads
  obtain ⟨store, _, loads⟩ := Logged.bind_ok.mp loads
  obtain ⟨followed, follows, loads⟩ := Logged.bind_ok.mp loads
  obtain ⟨_, _, loads⟩ := Logged.bind_ok.mp loads
  obtain rfl : followed = changed := Except.ok.inj loads
  exact ⟨store, follows⟩

/-- A model that is accepted brings its matchers and a roster of its grouping types. -/
theorem setModel_cases {model : Model} (accepts : (enforcer.setModel model).result = .ok changed) :
    ∃ matchers warned, model.validate = .ok () ∧ readMatchers model.matchers = .ok matchers ∧
      (followRules (refresh { enforcer with
        model := model
        matchers := matchers
        roster := enforcer.roster.reseat (model.roles.map (·.1))
          (.ofLimit enforcer.config.maxHierarchyLevel)
        warned := warned })).result = .ok changed := by
  -- Both checks come before anything is replaced.
  obtain ⟨_, valid, accepts⟩ := Logged.bind_ok.mp accepts
  obtain ⟨matchers, read, accepts⟩ := Logged.bind_ok.mp accepts
  obtain ⟨_, _, accepts⟩ := Logged.bind_ok.mp accepts
  exact ⟨matchers, _, valid, read, accepts⟩

/-- A manager that takes tests is a hierarchy in the roster. -/
theorem testableManager_cases {gtype : String} {manager : RoleManager}
    (testable : enforcer.testableManager gtype = .ok manager) :
    ∃ h, manager = .hierarchy h ∧ enforcer.roster.find? gtype = some (.hierarchy h) := by
  obtain ⟨found, asked, testable⟩ := bind_eq_ok.mp testable
  -- A plain list of links takes no tests.
  cases found with
  | hierarchy h =>
    obtain rfl : _ = manager := Except.ok.inj testable
    exact ⟨h, rfl, manager_eq_ok.mp asked⟩
  | direct links => cases testable

/-- A model is accepted if it is complete and its matchers are ones. -/
theorem setModel_ok {model : Model} {matchers : List (String × Matcher)}
    (valid : model.validate = .ok ()) (read : readMatchers model.matchers = .ok matchers) :
    ∃ changed, (enforcer.setModel model).result = .ok changed := by
  -- Nothing that follows the reading of the matchers can fail.
  simp only [setModel, Logged.result_bind, Logged.result_ofExcept, valid, read, ok_bind,
    Logged.result_note]
  exact followRules_ok _

/-- The one matcher of a model is read from its text. -/
theorem readMatchers_singleton {name expression : String} {matcher : Matcher}
    (read : Matcher.read expression = .ok matcher) :
    readMatchers [(name, expression)] = .ok [(name, matcher)] := by
  rw [readMatchers, read]
  rfl

/-- The enforcer that a complete model makes, before it links its rules, of which there are none. -/
def fresh [Host] (functions : Registry) (config : Config) (model : Model)
    (matchers : List (String × Matcher)) : Enforcer :=
  refresh
    { config := config
      enabled := config.enabled
      model := model
      matchers := matchers
      store := Store.empty
      functions := functions
      roster := Roster.empty.reseat (model.roles.map (·.1)) (.ofLimit config.maxHierarchyLevel)
      evaluator := ⟨functions, []⟩
      warned := (effectRecords [] (model.effects.map (·.2))).2 }

/-- What is made of a complete model needs its matchers only as they are read. -/
theorem result_create [Host] {model : Model} {matchers : List (String × Matcher)}
    (valid : model.validate = .ok ()) (read : readMatchers model.matchers = .ok matchers)
    (functions : Registry) (config : Config) :
    (create functions config model).result =
      (fresh functions config model matchers).followRules.result := by
  simp only [create, setModel, Logged.result_bind, Logged.result_ofExcept, valid, read, ok_bind,
    Logged.result_note]
  rfl

/-- A test for names is given to the hierarchy of a grouping type. -/
theorem setNameTest_cases {gtype label : String} {given : Option Callable}
    (sets : enforcer.setNameTest gtype label given = .ok changed) :
    ∃ h test, enforcer.roster.find? gtype = some (.hierarchy h) ∧
      changed = enforcer.modifyManager gtype fun _ =>
        .hierarchy { h with nameTest := some test } := by
  obtain ⟨manager, testable, sets⟩ := bind_eq_ok.mp sets
  obtain ⟨tested, isSet, sets⟩ := bind_eq_ok.mp sets
  obtain ⟨h, rfl, found⟩ := testableManager_cases testable
  -- What cannot be called is refused, so there is a test to give.
  cases given with
  | none => cases isSet
  | some function =>
    obtain rfl : _ = tested := Except.ok.inj isSet
    exact ⟨h, .ofCallable label function, found, (Except.ok.inj sets).symm⟩

/-- A test for domains is given to the hierarchy of a grouping type. -/
theorem setDomainTest_cases {gtype label : String} {given : Option Callable}
    (sets : enforcer.setDomainTest gtype label given = .ok changed) :
    ∃ h test, enforcer.roster.find? gtype = some (.hierarchy h) ∧
      changed =
        enforcer.modifyManager gtype fun _ => .hierarchy { h with domainTest := some test } := by
  obtain ⟨manager, testable, sets⟩ := bind_eq_ok.mp sets
  obtain ⟨tested, isSet, sets⟩ := bind_eq_ok.mp sets
  obtain ⟨h, rfl, found⟩ := testableManager_cases testable
  cases given with
  -- Without a function there is no test.
  | none => cases isSet
  -- The test is made of the function.
  | some function =>
    obtain rfl : _ = tested := Except.ok.inj isSet
    exact ⟨h, .ofCallable label function, found, (Except.ok.inj sets).symm⟩

/-- A function that is accepted is there for matchers at once. -/
theorem addFunction_cases {name : String} {given : Option Callable}
    (adds : enforcer.addFunction name given = .ok changed) :
    ∃ functions, changed = refresh { enforcer with functions := functions } := by
  obtain ⟨functions, _, adds⟩ := bind_eq_ok.mp adds
  exact ⟨functions, (Except.ok.inj adds).symm⟩

/-! ### What writes leave alone -/

/-- The enforcer without rules and links. -/
def bare (enforcer : Enforcer) : Enforcer :=
  { enforcer with store := Store.empty, roster := enforcer.roster.bare }

/-- Enforcers that differ in rules and links alone have the same managers but for the links. -/
theorem map_clear_of_bare (same : changed.bare = enforcer.bare) (gtype : String) :
    (changed.roster.find? gtype).map RoleManager.clear =
      (enforcer.roster.find? gtype).map RoleManager.clear := by
  rw [← Roster.find?_bare, ← Roster.find?_bare]
  exact congrArg (·.roster.find? gtype) same

/-- New links leave a manager the same but for its links. -/
theorem relinked_clear (gtype : String) (manager : RoleManager) :
    (enforcer.relinked gtype manager).1.clear = manager.clear := by
  cases manager <;> rfl

/-- New links for one grouping type change nothing but links. -/
theorem relink_bare {gtype : String} (relinks : (enforcer.relink gtype).result = .ok changed) :
    changed.bare = enforcer.bare := by
  obtain ⟨_, rfl⟩ := relink_cases relinks
  simp [bare, modifyManager, Roster.modify_bare (relinked_clear gtype)]

/-- New links for all managers change nothing but links. -/
theorem followRules_bare (follows : enforcer.followRules.result = .ok changed) :
    changed.bare = enforcer.bare := by
  simp only [followRules] at follows
  -- Without being asked for, no links are made at all.
  split at follows
  · obtain rfl := Except.ok.inj ((buildLinks_result enforcer).symm.trans follows)
    simp [bare, Roster.modifyAll_bare relinked_clear]
  · obtain rfl := Except.ok.inj follows
    rfl

/-- A load that succeeds changes nothing but rules and links. -/
theorem load_bare {policies groupings : List (String × Value)}
    (loads : (enforcer.load policies groupings).result = .ok changed) :
    changed.bare = enforcer.bare := by
  obtain ⟨store, follows⟩ := load_cases loads
  exact (followRules_bare follows).trans rfl

/-- An enforcer keeps the host that it was made for. -/
theorem create_host [host : Host] {functions : Registry} {config : Config} {model : Model}
    (created : (create functions config model).result = .ok enforcer) : enforcer.host = host := by
  obtain ⟨matchers, warned, _, _, follows⟩ := setModel_cases created
  exact congrArg (·.host) (followRules_bare follows)

/-- A change to the rules of a policy type changes nothing but rules. -/
theorem changePolicy_bare {ptype : String} {change : Change} {isDone : Bool}
    (changes : (enforcer.changePolicy ptype change).result = .ok (changed, isDone)) :
    changed.bare = enforcer.bare := by
  obtain rfl | ⟨_, rules, rfl⟩ := changePolicy_cases changes
  · -- Nothing is changed.
    rfl
  · -- Only rules are.
    rfl

/-- A change to the rules of a grouping type changes nothing but rules and links. -/
theorem changeGrouping_bare {gtype : String} {change : Change} {isDone : Bool}
    (changes : (enforcer.changeGrouping gtype change).result = .ok (changed, isDone)) :
    changed.bare = enforcer.bare := by
  obtain rfl | ⟨_, rules, changes⟩ := changeGrouping_cases changes
  · rfl
  · -- Publishing rules is left out of the bare enforcer, and new links are as well.
    split at changes
    · -- The links are new.
      exact (relink_bare changes).trans rfl
    · -- The links are left.
      exact changes ▸ rfl

/-- Without links a loss of all rules changes nothing but rules. -/
theorem clearRules_bare (enforcer : Enforcer) : enforcer.clearRules.bare = enforcer.bare := by
  simp only [clearRules, bare, Enforcer.mk.injEq, true_and, and_true]
  split
  · -- All managers are cleared.
    exact Roster.modifyAll_bare fun _ manager => by cases manager <;> rfl
  · -- The managers are left.
    rfl

/-- Writes change nothing but rules and links. -/
theorem writes_bare (enforcer : Enforcer) (writes : List Write) :
    (enforcer.writes writes).bare = enforcer.bare := by
  -- The frame is that of the enforcer at the start, and each part of a write keeps it.
  have kept : KeptByWrites fun after => after.bare = enforcer.bare := {
    policy := fun same changes => (changePolicy_bare changes).trans same
    grouping := fun same changes => (changeGrouping_bare changes).trans same
    load := fun same loads => by
      obtain ⟨store, follows⟩ := load_cases loads
      exact (followRules_bare follows).trans same
    clear := fun same => (clearRules_bare _).trans same
    build := fun same builds => by
      obtain rfl := Except.ok.inj ((buildLinks_result _).symm.trans builds)
      simpa [bare, Roster.modifyAll_bare relinked_clear] using same }
  exact kept.writes rfl writes

/-! ### What matchers call -/

/-- The evaluator knows the seats that the managers have now. -/
def KnowsSeats (enforcer : Enforcer) : Prop :=
  enforcer.evaluator.seats = enforcer.roster.seats

/-- A new evaluator knows the seats. -/
theorem knowsSeats_refresh (enforcer : Enforcer) : enforcer.refresh.KnowsSeats := rfl

/-- The seats stay known where nothing but rules and links changes. -/
theorem KnowsSeats.of_bare (knows : enforcer.KnowsSeats) (same : changed.bare = enforcer.bare) :
    changed.KnowsSeats :=
  calc changed.evaluator.seats
    _ = enforcer.evaluator.seats := congrArg (·.evaluator.seats) same
    _ = enforcer.roster.seats := knows
    _ = changed.roster.seats := (congrArg (·.roster.seats) same).symm

/-- If the evaluator knows the seats of the managers, matchers call the manager of a grouping
type. -/
theorem KnowsSeats.function?_of_find? (knows : enforcer.KnowsSeats) {gtype : String}
    {manager : RoleManager} (found : enforcer.roster.find? gtype = some manager) :
    enforcer.function? gtype = some (enforcer.membership manager) := by
  obtain ⟨number, seat, held⟩ := Roster.seat_of_find? found
  have known : enforcer.evaluator.seats = enforcer.roster.seats := knows
  simp [function?, known, seat, held]

end Enforcer

end AccessControl
