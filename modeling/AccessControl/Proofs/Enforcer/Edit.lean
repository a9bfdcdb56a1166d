import AccessControl.Proofs.Enforcer.Classic
import AccessControl.Proofs.Enforcer.InPlace

/-! Whatever an enforcer is asked to write happens as a whole or not at all. -/

namespace AccessControl

/-- What an enforcer can be asked to write: rules of one type, all rules, another model, and what
the helpers for roles, users, permissions and domains write. -/
inductive Edit
  | policy (ptype : String) (change : Change)
  | grouping (gtype : String) (change : Change)
  | load (policies groupings : List (String × Value))
  | setModel (model : Model)
  | addRole (user role domain : Value)
  | addRoles (user roles domain : Value)
  | deleteRoleOf (user role domain : Value)
  | deleteRolesIn (user domain : Value)
  | deleteRolesOf (user domain : Value)
  | deleteUser (user : Value)
  | deleteRole (role : Value)
  | addPermission (user : Value) (permission : List Value)
  | addPermissions (user : Value) (permissions : List Value)
  | deletePermission (permission : List Value)
  | deletePermissionOf (user : Value) (permission : List Value)
  | deletePermissionsOf (user : Value)
  | deleteUsersInDomain (domain : Value)

namespace Enforcer

/-- The enforcer after what it is asked for, and whether anything was written. What replaces all
rules or the model always writes. -/
def edited (enforcer : Enforcer) : Edit → Logged (Enforcer × Bool)
  | .policy ptype change => enforcer.changePolicy ptype change
  | .grouping gtype change => enforcer.changeGrouping gtype change
  | .load policies groupings => do return (← enforcer.load policies groupings, true)
  | .setModel model => do return (← enforcer.setModel model, true)
  | .addRole user role domain => enforcer.addRole user role domain
  | .addRoles user roles domain => enforcer.addRoles user roles domain
  | .deleteRoleOf user role domain => enforcer.deleteRoleOf user role domain
  | .deleteRolesIn user domain => enforcer.deleteRolesIn user domain
  | .deleteRolesOf user domain => enforcer.deleteRolesOf user domain
  | .deleteUser user => enforcer.deleteUser user
  | .deleteRole role => enforcer.deleteRole role
  | .addPermission user permission => enforcer.addPermission user permission
  | .addPermissions user permissions => enforcer.addPermissions user permissions
  | .deletePermission permission => enforcer.deletePermission permission
  | .deletePermissionOf user permission => enforcer.deletePermissionOf user permission
  | .deletePermissionsOf user => enforcer.deletePermissionsOf user
  | .deleteUsersInDomain domain => enforcer.deleteUsersInDomain domain

end Enforcer

/-- What is asked for, as it happens. -/
def Edit.inPlace : Edit → InPlace Bool
  | .policy ptype change => InPlace.changePolicy ptype change
  | .grouping gtype change => InPlace.changeGrouping gtype change
  | .load policies groupings => do
    InPlace.load policies groupings
    return true
  | .setModel model => do
    InPlace.setModel model
    return true
  | .addRole user role domain =>
    InPlace.changeGrouping "g" (.add (ruleOfArguments (withDomain [user, role] domain)))
  | .addRoles user roles domain => do
    let rules := (← ofExcept roles.items).map fun role => .list (withDomain [user, role] domain)
    InPlace.changeGrouping "g" (.addMany (.list rules))
  | .deleteRoleOf user role domain =>
    InPlace.changeGrouping "g" (.remove (ruleOfArguments (withDomain [user, role] domain)))
  | .deleteRolesIn user domain =>
    InPlace.changeGrouping "g" (.removeFiltered 0 [user, .text "", domain])
  | .deleteRolesOf user domain =>
    InPlace.changeGrouping "g"
      (.removeFiltered 0 (if domain.isTrue then [user, .text "", domain] else [user]))
  | .deleteUser user => InPlace.removeBoth 0 (·.subjectPosition "p") user
  | .deleteRole role => InPlace.removeBoth 1 (·.subjectPosition "p") role
  | .addPermission user permission =>
    InPlace.changePolicy "p" (.add (ruleOfArguments (user :: permission)))
  | .addPermissions user permissions => do
    let rows ← ofExcept (permissions.mapM Enforcer.permissionFields)
    InPlace.changePolicy "p" (.addMany (.list (rows.map fun row => .list (user :: row))))
  | .deletePermission permission => do
    InPlace.changePolicy "p" (.removeFiltered ((← get).subjectPosition "p" + 1) permission)
  | .deletePermissionOf user permission =>
    InPlace.changePolicy "p" (.remove (ruleOfArguments (user :: permission)))
  | .deletePermissionsOf user => do
    InPlace.changePolicy "p" (.removeFiltered ((← get).subjectPosition "p") [user])
  | .deleteUsersInDomain domain => InPlace.removeBoth 2 (·.domainPosition "p") domain

namespace Enforcer

variable {enforcer changed : Enforcer}

/-- In a valid enforcer whatever is asked for happens in one go or not at all. -/
theorem IsValid.run_inPlace (valid : enforcer.IsValid) (edit : Edit) :
    edit.inPlace.run enforcer = settled enforcer (enforcer.edited edit).result := by
  have grouping := InPlace.changeGrouping_run valid
  have policy := InPlace.changePolicy_run enforcer
  -- Most of it is a single change. What removes from both kinds of rules looks up a place between
  -- its two changes, which depends on the model alone and so is the same after the first one.
  cases edit with
  | policy ptype change => exact policy ptype change
  | grouping gtype change => exact grouping gtype change
  | load policies groupings =>
    simp only [Edit.inPlace, EStateM.run_bind, InPlace.load_run, edited, Logged.result_bind]
    cases (enforcer.load policies groupings).result <;> rfl
  | setModel model =>
    simp only [Edit.inPlace, EStateM.run_bind, InPlace.setModel_run valid, edited,
      Logged.result_bind]
    cases (enforcer.setModel model).result <;> rfl
  | addRole user role domain => exact grouping "g" _
  | addRoles user roles domain =>
    simp only [Edit.inPlace, EStateM.run_bind, run_ofExcept, edited, Enforcer.addRoles,
      Logged.result_bind, Logged.result_ofExcept]
    cases roles.items with
    | error error => rfl
    | ok items => exact grouping "g" _
  | deleteRoleOf user role domain => exact grouping "g" _
  | deleteRolesIn user domain => exact grouping "g" _
  | deleteRolesOf user domain =>
    simp only [Edit.inPlace, edited, deleteRolesOf, deleteRolesIn]
    split <;> exact grouping "g" _
  | deleteUser user =>
    refine InPlace.removeBoth_run valid 0 (fun other same => ?_) user
    simp only [subjectPosition, position, same]
  | deleteRole role =>
    refine InPlace.removeBoth_run valid 1 (fun other same => ?_) role
    simp only [subjectPosition, position, same]
  | addPermission user permission => exact policy "p" _
  | addPermissions user permissions =>
    simp only [Edit.inPlace, EStateM.run_bind, run_ofExcept, edited, Enforcer.addPermissions,
      Logged.result_bind, Logged.result_ofExcept]
    cases permissions.mapM permissionFields with
    | error error => rfl
    | ok rows => exact policy "p" _
  | deletePermission permission => exact policy "p" _
  | deletePermissionOf user permission => exact policy "p" _
  | deletePermissionsOf user => exact policy "p" _
  | deleteUsersInDomain domain =>
    refine InPlace.removeBoth_run valid 2 (fun other same => ?_) domain
    simp only [domainPosition, position, same]

/-- A change to the rules of a policy type that does not take place changes nothing. -/
theorem changePolicy_idle {ptype : String} {change : Change}
    (changes : (enforcer.changePolicy ptype change).result = .ok (changed, false)) :
    changed = enforcer := by
  simp only [changePolicy] at changes
  split at changes
  · obtain ⟨stored, _, changes⟩ := Logged.bind_ok.mp changes
    cases stored with
    | none => exact ((Prod.mk.inj (Except.ok.inj changes)).1).symm
    | some store => cases changes
  · cases changes

/-- A change to the rules of a grouping type that does not take place changes nothing. -/
theorem changeGrouping_idle {gtype : String} {change : Change}
    (changes : (enforcer.changeGrouping gtype change).result = .ok (changed, false)) :
    changed = enforcer := by
  simp only [changeGrouping] at changes
  split at changes
  · obtain ⟨stored, _, changes⟩ := Logged.bind_ok.mp changes
    cases stored with
    | none => exact ((Prod.mk.inj (Except.ok.inj changes)).1).symm
    | some store =>
      -- With or without new links, a change that is stored has taken place.
      by_cases builds : enforcer.config.buildsLinks = true
      · simp only [builds, if_true] at changes
        obtain ⟨linked, _, changes⟩ := Logged.bind_ok.mp changes
        cases changes
      · simp only [builds] at changes
        cases changes
  · cases changes

/-- Two changes of which neither takes place change nothing. -/
theorem changeBoth_idle {grouping policy : Change}
    (changes : (enforcer.changeBoth grouping policy).result = .ok (changed, false)) :
    changed = enforcer := by
  obtain ⟨⟨between, hadLinks⟩, first, changes⟩ := Logged.bind_ok.mp changes
  obtain ⟨⟨last, hadRules⟩, second, changes⟩ := Logged.bind_ok.mp changes
  obtain ⟨rfl, neither⟩ := Prod.mk.inj (Except.ok.inj changes)
  obtain ⟨rfl, rfl⟩ := Bool.or_eq_false_iff.mp neither
  rw [changePolicy_idle second, changeGrouping_idle first]

/-- What is asked for in vain changes nothing. -/
theorem edited_idle {edit : Edit} (edits : (enforcer.edited edit).result = .ok (changed, false)) :
    changed = enforcer := by
  cases edit with
  | policy | addPermission | deletePermission | deletePermissionOf | deletePermissionsOf =>
    exact changePolicy_idle edits
  | grouping | addRole | deleteRoleOf | deleteRolesIn => exact changeGrouping_idle edits
  | deleteUser | deleteRole | deleteUsersInDomain => exact changeBoth_idle edits
  | load | setModel =>
    -- What replaces all rules or the model is never in vain.
    obtain ⟨_, _, edits⟩ := Logged.bind_ok.mp edits
    cases edits
  | addRoles =>
    obtain ⟨items, _, edits⟩ := Logged.bind_ok.mp edits
    exact changeGrouping_idle edits
  | deleteRolesOf user domain =>
    simp only [edited, deleteRolesOf] at edits
    split at edits
    · exact changeGrouping_idle edits
    · exact changeGrouping_idle edits
  | addPermissions =>
    obtain ⟨rows, _, edits⟩ := Logged.bind_ok.mp edits
    exact changePolicy_idle edits

/-- Whatever a reachable enforcer is asked to write happens as a whole or not at all. If it fails on
the way, or has nothing to do, what is left is the enforcer before it: its rules, its managers with
their links and its model. Otherwise it is what the write makes. -/
theorem Reachable.allOrNothing (reachable : enforcer.Reachable) (edit : Edit) :
    match edit.inPlace.run enforcer with
    | .ok isDone after =>
      (enforcer.edited edit).result = .ok (after, isDone) ∧ (isDone = false → after = enforcer)
    | .error error after => (enforcer.edited edit).result = .error error ∧ after = enforcer := by
  rw [reachable.isValid.run_inPlace edit]
  -- With an error nothing has happened; without one, only what was in vain has to be looked at.
  cases edits : (enforcer.edited edit).result with
  | error error => exact ⟨rfl, rfl⟩
  | ok result =>
    obtain ⟨after, isDone⟩ := result
    refine ⟨rfl, fun inVain => ?_⟩
    obtain rfl : isDone = false := inVain
    exact edited_idle edits

/-- Roles of which one is no list of fields. -/
def mixedBatch : Edit :=
  .grouping "g" (.addMany (.list [.list [.text "alice", .text "admin"], .text "bob"]))

/-- No role of the batch is added. -/
theorem Reachable.allOrNothing_mixedBatch :
    ∃ start error, (create .empty .default .classic).result = .ok start ∧ start.Reachable ∧
      mixedBatch.inPlace.run start = .error error start := by
  obtain ⟨start, created⟩ := create_classic .empty .default
  have configured : Config.create [] = .ok .default := by rfl
  have reachable : start.Reachable := .created configured created
  have whole := reachable.allOrNothing mixedBatch
  have refused : (create .empty .default .classic).result.toOption.map (fun start =>
      (start.edited mixedBatch).result.toOption.isSome) = some false := by
    rw [result_create_classic]
    decide +kernel
  rw [created] at refused
  have refused : (start.edited mixedBatch).result.toOption.isSome = false := Option.some.inj refused
  -- The run comes to an error, as what is asked for does.
  cases ran : mixedBatch.inPlace.run start with
  | ok isDone after =>
    rw [ran] at whole
    rw [whole.1] at refused
    cases refused
  | error error after =>
    rw [ran] at whole
    exact ⟨start, error, created, reachable, by rw [ran, whole.2]⟩

end Enforcer

end AccessControl
