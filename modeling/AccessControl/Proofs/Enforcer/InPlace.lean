import AccessControl.Proofs.Enforcer.Change

/-! Writes as they happen, one visible change after the other, and that in a valid enforcer none of
their parts fails when something has changed. -/

namespace AccessControl

/-! ### One change after the other -/

/-- A computation that changes an enforcer as it goes on. An error takes back nothing. -/
abbrev InPlace := EStateM Error Enforcer

namespace InPlace

open Enforcer

/-- The store gives way to another one. -/
def publish (store : Store) : InPlace Unit :=
  modify fun enforcer => { enforcer with store := store }

/-- The manager of a grouping type, if there is one, gets the links of the rules that are stored
now. -/
def relink (gtype : String) : InPlace Unit := do
  let _ ← ofExcept ((← get).manager gtype)
  modify fun enforcer =>
    enforcer.modifyManager gtype fun manager => (enforcer.relinked gtype manager).1

/-- The managers of grouping types get the links of the rules that are stored now, in turn. -/
def relinkEach : List String → InPlace Unit
  | [] => return
  | gtype :: rest => do
    modify fun enforcer =>
      enforcer.modifyManager gtype fun manager => (enforcer.relinked gtype manager).1
    relinkEach rest

/-- All managers get the links of the stored rules, if the configuration asks for that. -/
def followRules : InPlace Unit := do
  let enforcer ← get
  if enforcer.config.buildsLinks then relinkEach (enforcer.roster.seats.map (·.1))

/-- The rules of a policy type are changed, unless there is nothing to change. -/
def changePolicy (ptype : String) (change : Change) : InPlace Bool := do
  let enforcer ← get
  if enforcer.model.isPolicyType ptype then
    match ← ofExcept (enforcer.changedStore ptype change) with
    | none => return false
    | some store =>
      publish store
      return true
  else throw (.policy (.undeclaredPolicy ptype) ptype)

/-- The rules of a grouping type are changed, unless there is nothing to change, and then its
links. -/
def changeGrouping (gtype : String) (change : Change) : InPlace Bool := do
  let enforcer ← get
  if enforcer.model.isGroupingType gtype then
    match ← ofExcept (enforcer.changedStore gtype change) with
    | none => return false
    | some store =>
      publish store
      if enforcer.config.buildsLinks then relink gtype
      return true
  else throw (.policy (.undeclaredGrouping gtype) gtype)

/-- Grouping rules with a value at one place go, and then the rules with it at another place. -/
def removeBoth (linkPosition : Int) (rulePosition : Enforcer → Nat) (value : Value) :
    InPlace Bool := do
  let hadLinks ← changeGrouping "g" (.removeFiltered linkPosition [value])
  let hadRules ← changePolicy "p" (.removeFiltered (rulePosition (← get)) [value])
  return hadLinks || hadRules

/-- All rules give way to the given ones, and then the links follow them. -/
def load (policies groupings : List (String × Value)) : InPlace Unit := do
  let enforcer ← get
  ofExcept (checkTypes enforcer.model.isPolicyType .undeclaredPolicy policies)
  ofExcept (checkTypes enforcer.model.isGroupingType .undeclaredGrouping groupings)
  publish (← ofExcept (enforcer.newStore (collectKeys (policies ++ groupings))))
  followRules

/-- The model gives way to another one, then the managers to those of its grouping types, of which
new ones are made under the limit, then the functions that matchers call, and then the links
follow. -/
def setModel (model : Model) : InPlace Unit := do
  ofExcept model.validate
  let matchers ← ofExcept (readMatchers model.matchers)
  modify fun enforcer =>
    { enforcer with warned := (effectRecords enforcer.warned (model.effects.map (·.2))).2 }
  modify fun enforcer => { enforcer with model := model, matchers := matchers }
  let enforcer ← get
  if model.roles.any fun role => (enforcer.roster.find? role.1).isNone then
    let _ ← ofExcept (Hierarchy.create enforcer.config.maxHierarchyLevel)
  modify fun enforcer =>
    { enforcer with
      roster := enforcer.roster.reseat (model.roles.map (·.1))
        (.ofLimit enforcer.config.maxHierarchyLevel) }
  modify refresh
  followRules

end InPlace

/-! ### What happens in one go -/

/-- What an attempt in one go comes to: the enforcer that it makes, or with an error the one before
it. -/
def settled {α : Type} (enforcer : Enforcer) (attempt : Except Error (Enforcer × α)) :
    EStateM.Result Error Enforcer α :=
  match attempt with
  | .ok (changed, a) => .ok a changed
  | .error error => .error error enforcer

namespace InPlace

open Enforcer

variable {enforcer changed : Enforcer}

/-- A change to the rules of a policy type happens in one go. -/
theorem changePolicy_run (enforcer : Enforcer) (ptype : String) (change : Change) :
    (changePolicy ptype change).run enforcer =
      settled enforcer (enforcer.changePolicy ptype change).result := by
  simp only [changePolicy, EStateM.run_bind, EStateM.run_get, Enforcer.changePolicy]
  split
  · -- The type is declared, and the change is tried.
    simp only [EStateM.run_bind, run_ofExcept]
    cases applied : enforcer.changedStore ptype change with
    | error error => simp [settled]
    | ok stored => cases stored <;> rfl
  · -- The type is not declared.
    rfl

/-- In a valid enforcer a change to the rules of a grouping type happens in one go, as its manager
is there to get the links when the rules have changed already. -/
theorem changeGrouping_run (valid : enforcer.IsValid) (gtype : String) (change : Change) :
    (changeGrouping gtype change).run enforcer =
      settled enforcer (enforcer.changeGrouping gtype change).result := by
  simp only [changeGrouping, EStateM.run_bind, EStateM.run_get, Enforcer.changeGrouping]
  split
  · rename_i declared
    simp only [EStateM.run_bind, run_ofExcept]
    cases applied : enforcer.changedStore gtype change with
    -- The change is refused, and nothing has been changed.
    | error error => simp [settled]
    | ok stored =>
      cases stored with
      -- There is nothing to change.
      | none => rfl
      | some store =>
        by_cases builds : enforcer.config.buildsLinks = true
        · -- The rules are new, and the links are made anew.
          obtain ⟨manager, found⟩ := valid.managed gtype declared
          have present : Enforcer.manager { enforcer with store := store } gtype = .ok manager :=
            manager_eq_ok.mpr found
          simp only [publish, relink, builds, if_true, EStateM.run_bind, EStateM.run_modify,
            EStateM.run_get, run_ofExcept, present, Enforcer.relink, Logged.result_bind,
            Logged.result_ofExcept, ok_bind]
          rfl
        · -- The links are left.
          simp only [publish, builds, EStateM.run_bind, EStateM.run_modify]
          rfl
  · -- The type is not declared.
    rfl

/-- New links depend on nothing but the stored rules. -/
theorem relinked_of_store (enforcer : Enforcer) (same : changed.store = enforcer.store) :
    changed.relinked = enforcer.relinked := by
  funext gtype manager
  simp only [relinked, same]

/-- New links in turn are those of the stored rules for each of the managers. -/
theorem relinkEach_run (gtypes : List String) (enforcer : Enforcer) :
    (relinkEach gtypes).run enforcer = .ok () { enforcer with
      roster := Roster.modifyEach (fun gtype manager => (enforcer.relinked gtype manager).1) gtypes
        enforcer.roster } := by
  induction gtypes generalizing enforcer with
  | nil => rfl
  | cons gtype rest ih =>
    simp only [relinkEach, EStateM.run_bind, EStateM.run_modify, ih, Roster.modifyEach]
    -- The links of the first manager are no rules, so those of the others are as before.
    rw [relinked_of_store enforcer rfl]
    rfl

/-- New links for all managers are made in one go. -/
theorem followRules_run (follows : enforcer.followRules.result = .ok changed) :
    followRules.run enforcer = .ok () changed := by
  simp only [followRules, EStateM.run_bind, EStateM.run_get]
  simp only [Enforcer.followRules] at follows
  split at follows
  · -- The links are built of all rules.
    rename_i builds
    obtain rfl := Except.ok.inj ((buildLinks_result enforcer).symm.trans follows)
    simp only [builds, if_true, relinkEach_run, Roster.modifyAll]
  · -- The links are left.
    rename_i builds
    obtain rfl := Except.ok.inj follows
    simp only [builds]
    rfl

/-- All rules are replaced in one go. -/
theorem load_run (enforcer : Enforcer) (policies groupings : List (String × Value)) :
    (load policies groupings).run enforcer =
      settled enforcer ((enforcer.load policies groupings).result.map fun changed =>
        (changed, ())) := by
  simp only [load, EStateM.run_bind, EStateM.run_get, run_ofExcept, Enforcer.load,
    Logged.result_bind, Logged.result_ofExcept]
  cases checkTypes enforcer.model.isPolicyType .undeclaredPolicy policies with
  -- A policy type is not declared.
  | error error => rfl
  | ok _ =>
    cases checkTypes enforcer.model.isGroupingType .undeclaredGrouping groupings with
    -- A grouping type is not declared.
    | error error => rfl
    | ok _ =>
      cases enforcer.newStore (collectKeys (policies ++ groupings)) with
      -- The rules cannot be read.
      | error error => rfl
      | ok store =>
        -- The rules are replaced before the links follow them, which does not fail.
        obtain ⟨changed, follows⟩ := followRules_ok { enforcer with store := store }
        simp only [publish, EStateM.run_modify, followRules_run follows, ok_bind, follows,
          Logged.result_note, Logged.result_pure]
        rfl

/-- In a valid enforcer the model is replaced in one go, as there is no negative limit for the
managers that are made when there is the other model already. -/
theorem setModel_run (valid : enforcer.IsValid) (model : Model) :
    (setModel model).run enforcer =
      settled enforcer ((enforcer.setModel model).result.map fun changed => (changed, ())) := by
  simp only [setModel, EStateM.run_bind, EStateM.run_get, EStateM.run_modify, run_ofExcept,
    Enforcer.setModel, Logged.result_bind, Logged.result_ofExcept]
  cases model.validate with
  -- The model is not complete.
  | error error => rfl
  | ok _ =>
    cases readMatchers model.matchers with
    -- A matcher cannot be read.
    | error error => rfl
    | ok matchers =>
      obtain ⟨h, created⟩ : ∃ h, Hierarchy.create enforcer.config.maxHierarchyLevel = .ok h :=
        ⟨_, by simp only [Hierarchy.create, valid.level]; rfl⟩
      obtain ⟨changed, follows⟩ := followRules_ok (refresh { enforcer with
        model := model
        matchers := matchers
        roster := enforcer.roster.reseat (model.roles.map (·.1))
          (.ofLimit enforcer.config.maxHierarchyLevel)
        warned := (effectRecords enforcer.warned (model.effects.map (·.2))).2 })
      simp only [ok_bind, Logged.result_note, follows]
      -- Whether or not a manager has to be made, the rest happens.
      split
      · -- A manager is made for a new type.
        simp only [EStateM.run_bind, run_ofExcept, created, EStateM.run_modify]
        rw [followRules_run follows]
        rfl
      · -- There are managers for all types.
        simp only [EStateM.run_bind, EStateM.run_modify]
        rw [followRules_run follows]
        rfl

/-- Rules with a value at a place can always be removed: the type is declared, and the place does
not count from the end. -/
theorem changePolicy_removeFiltered_ok (valid : enforcer.IsValid) (position : Nat) (value : Value) :
    ∃ result,
      (enforcer.changePolicy "p" (.removeFiltered position [value])).result = .ok result := by
  obtain ⟨stored, applied⟩ := enforcer.store.apply_removeFiltered_ok enforcer.host.toRuntime
      "p"
    (Int.natCast_nonneg position) [value]
  exact ⟨_, changePolicy_of_apply valid.declaresRules applied⟩

/-- In a valid enforcer grouping rules and rules go in one go, as the second removal does not fail
when the first one has taken place. -/
theorem removeBoth_run (valid : enforcer.IsValid) (linkPosition : Int)
    {rulePosition : Enforcer → Nat} (ofModel : ∀ other : Enforcer, other.model = enforcer.model →
      rulePosition other = rulePosition enforcer) (value : Value) :
    (removeBoth linkPosition rulePosition value).run enforcer =
      settled enforcer (enforcer.changeBoth (.removeFiltered linkPosition [value])
        (.removeFiltered (rulePosition enforcer) [value])).result := by
  simp only [removeBoth, EStateM.run_bind, EStateM.run_get, changeGrouping_run valid, changeBoth,
    Logged.result_bind]
  cases first : (enforcer.changeGrouping "g" (.removeFiltered linkPosition [value])).result with
  | error error => rfl
  | ok result =>
    obtain ⟨between, hadLinks⟩ := result
    -- What is left of the first removal is valid, and the place is the same in it.
    have bare := changeGrouping_bare first
    have place := ofModel between (congrArg (·.model) bare)
    obtain ⟨⟨changed, hadRules⟩, second⟩ :=
      changePolicy_removeFiltered_ok (valid.of_bare bare) (rulePosition enforcer) value
    simp only [settled, changePolicy_run, place, second, ok_bind]
    rfl

end InPlace

end AccessControl
