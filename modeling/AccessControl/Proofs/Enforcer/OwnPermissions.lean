import AccessControl.Proofs.Enforcer.Change
import AccessControl.Proofs.Enforcer.Stored

/-! A permission is stored behind the name of its user, and it is looked for where the schema has
the subject: these are the same place where the subject comes first. -/

namespace AccessControl

/-- The subject is the first field of the rules of a type if the type declares it as that, or not at
all. -/
theorem subjectPosition_eq_zero {enforcer : Enforcer} {ptype : String} :
    enforcer.subjectPosition ptype = 0 ↔
      ("sub" ∈ enforcer.model.policyFields ptype →
        (enforcer.model.policyFields ptype).head? = some "sub") := by
  unfold Enforcer.subjectPosition Enforcer.position Model.fieldIndex?
  cases enforcer.model.policyFields ptype with
  -- Without fields there is no subject, and its position is the first one.
  | nil => simp
  | cons first rest =>
    rw [List.findIdx?_cons]
    by_cases same : first = "sub"
    · -- The subject comes first.
      simp [same]
    · -- Behind another first field the subject is found later, if at all.
      have declared : (rest.findIdx? (· == "sub")).isSome = true ↔ "sub" ∈ rest := by
        simp [List.findIdx?_isSome]
      cases found : rest.findIdx? (· == "sub") <;> simp_all [Ne.symm same]

/-- The rule that is stored for a permission of a user. -/
def permissionRule (user : String) (permission : List Value) : Rule :=
  Text.trim user :: permission.map fun field => Text.trim field.asText

/-- A rule for a permission can be made of whatever can be written. -/
theorem ofValue_permission {runtime : Runtime} (ptype : Option String) (user : String)
    {permission : List Value} (written : ∀ field ∈ permission, ∃ s, field.write = .ok s) :
    Rule.ofValue ptype (ruleOfArguments (.text user :: permission)) =
      .ok (permissionRule user permission) := by
  simp [ruleOfArguments, Rule.ofValue, Value.items, permissionRule, Value.mapM_write written]

namespace Enforcer

variable {enforcer : Enforcer} {user : String}

/-- A permission for a user is stored behind all other rules unless it is there. -/
theorem addPermission_result (complete : enforcer.model.validate = .ok ()) (user : String)
    {permission : List Value}
    (written : ∀ field ∈ permission, ∃ s, @Value.write enforcer.host.toRuntime field = .ok s) :
    ∃ changed isNew, (enforcer.addPermission (.text user) permission).result =
      .ok (changed, isNew) ∧
      changed.model = enforcer.model ∧
      (isNew = true ↔ permissionRule user permission ∉ enforcer.store.rules "p") ∧
      changed.store.rules "p" = if permissionRule user permission ∈ enforcer.store.rules "p" then
        enforcer.store.rules "p" else enforcer.store.rules "p" ++
        [permissionRule user permission] := by
  have added := changePolicy_of_apply (Model.isPolicyType_of_validate complete)
    (enforcer.store.apply_add (ofValue_permission "p" user written))
  refine ⟨_, _, added, rfl, ?_, ?_⟩
  · -- The rule is new exactly if it is not stored.
    split <;> simp_all
  · -- And then it stands behind the stored rules.
    split <;> simp

/-- The permissions of a user are listed as the rules that have the user as their subject. -/
theorem permissionsOf_name (named : user ≠ "") (ptype : String) :
    enforcer.permissionsOf ptype user "" = .ok ((enforcer.store.rules ptype).filter fun rule =>
      rule[enforcer.subjectPosition ptype]? == some user) := by
  have filtered : enforcer.store.filter ptype (enforcer.subjectPosition ptype) [.text user] =
      .ok ((enforcer.store.rules ptype).filter fun rule =>
        rule[enforcer.subjectPosition ptype]? == some user) :=
    Store.select_eq_filter (fun rule => rule.matchesFilter_name _ named) _
  simp [permissionsOf, filtered]

/-- The permissions of a user can be deleted, if there are any, and these are the rules that have
the user as their subject. -/
theorem deletePermissionsOf_result (complete : enforcer.model.validate = .ok ())
    (named : user ≠ "") :
    ∃ deleted isDone, (enforcer.deletePermissionsOf (.text user)).result = .ok (deleted, isDone) ∧
      (isDone = true ↔ ∃ rule ∈ enforcer.store.rules "p",
        rule[enforcer.subjectPosition "p"]? = some user) ∧
      deleted.store.rules "p" = (enforcer.store.rules "p").filter fun rule =>
        !(rule[enforcer.subjectPosition "p"]? == some user) := by
  obtain ⟨stored, applied, done, left⟩ :=
      enforcer.store.apply_removeFiltered_passes enforcer.host.toRuntime
      "p" (by simp)
    fun rule => rule.matchesFilter_name (enforcer.subjectPosition "p") named
  have removed := changePolicy_of_apply (Model.isPolicyType_of_validate complete) applied
  refine ⟨_, _, removed, by simpa using done, ?_⟩
  exact (left "p").trans (if_pos rfl)

/-- A permission with fields that can be written can be given to any user, and it is new if its rule
is not stored yet; it is stored after that. For a user with a name that has no blanks at its ends,
the permissions can be listed and deleted then. The rule for the permission is listed, and gone
after the deletion, if it has the user as its subject, and else it is neither. It has the user as
its subject if the schema declares the subject as the first field of rules, or not at all. -/
theorem addPermission_kept (complete : enforcer.model.validate = .ok ()) (named : user ≠ "")
    (trimmed : Text.trim user = user) {permission : List Value}
    (written : ∀ field ∈ permission, ∃ s, @Value.write enforcer.host.toRuntime field = .ok s) :
    ∃ changed isNew listed deleted isDone,
      (enforcer.addPermission (.text user) permission).result = .ok (changed, isNew) ∧
      (isNew = true ↔ permissionRule user permission ∉ enforcer.store.rules "p") ∧
      permissionRule user permission ∈ changed.store.rules "p" ∧
      changed.permissionsOf "p" user "" = .ok listed ∧
      (changed.deletePermissionsOf (.text user)).result = .ok (deleted, isDone) ∧
      (permissionRule user permission ∈ listed ↔
        (permissionRule user permission)[enforcer.subjectPosition "p"]? = some user) ∧
      (permissionRule user permission ∉ deleted.store.rules "p" ↔
        (permissionRule user permission)[enforcer.subjectPosition "p"]? = some user) ∧
      (("sub" ∈ enforcer.model.policyFields "p" →
        (enforcer.model.policyFields "p").head? = some "sub") →
        isDone = true ∧ permissionRule user permission ∈ listed ∧
          permissionRule user permission ∉ deleted.store.rules "p") := by
  obtain ⟨changed, isNew, added, model, new, rules⟩ := addPermission_result complete user written
  -- The rule is stored, whether it is new or not.
  have stored : permissionRule user permission ∈ changed.store.rules "p" := by
    rw [rules]
    split <;> simp_all
  have place : changed.subjectPosition "p" = enforcer.subjectPosition "p" := by
    simp only [subjectPosition, position, model]
  -- No schema is changed by the addition, so the subject is still looked for in the same place.
  obtain ⟨deleted, isDone, deletes, done, left⟩ :=
    @deletePermissionsOf_result changed user (model ▸ complete) named
  rw [place] at done left
  have listed := changed.permissionsOf_name named "p"
  rw [place] at listed
  have isListed : permissionRule user permission ∈
      ((changed.store.rules "p").filter fun rule =>
        rule[enforcer.subjectPosition "p"]? == some user) ↔
      (permissionRule user permission)[enforcer.subjectPosition "p"]? = some user := by
    simp [stored]
  have isGone : permissionRule user permission ∉ deleted.store.rules "p" ↔
      (permissionRule user permission)[enforcer.subjectPosition "p"]? = some user := by
    simp [left, stored]
  refine ⟨changed, isNew, _, deleted, isDone, added, new, stored, listed, deletes, isListed, isGone,
    fun first => ?_⟩
  -- The rule starts with the user, and the subject is the first field.
  have own : (permissionRule user permission)[enforcer.subjectPosition "p"]? = some user := by
    simp [subjectPosition_eq_zero.mpr first, permissionRule, trimmed]
  exact ⟨done.mpr ⟨_, stored, own⟩, isListed.mpr own, isGone.mpr own⟩

/-- In the classic model the subject comes first, so a permission is listed for its user and deleted
with the user's others. -/
theorem addPermission_kept_classic : ∃ start changed isNew listed deleted isDone,
    (create .empty .default .classic).result = .ok start ∧ start.model.validate = .ok () ∧
    "alice" ≠ "" ∧
      Text.trim "alice" = "alice" ∧
      (∀ field ∈ [Value.text "data", .text "read"],
        ∃ s, @Value.write start.host.toRuntime field = .ok s) ∧
      (start.addPermission (.text "alice") [.text "data", .text "read"]).result =
        .ok (changed, isNew) ∧
      changed.permissionsOf "p" "alice" "" = .ok listed ∧
      (changed.deletePermissionsOf (.text "alice")).result = .ok (deleted, isDone) ∧
      permissionRule "alice" [.text "data", .text "read"] ∈ listed ∧
      permissionRule "alice" [.text "data", .text "read"] ∉ deleted.store.rules "p" := by
  obtain ⟨start, created⟩ := create_classic .empty .default
  obtain ⟨model, _⟩ := create_starts created
  have complete : start.model.validate = .ok () := model ▸ validate_classic
  have named : "alice" ≠ "" := by decide
  have trimmed : Text.trim "alice" = "alice" := by decide
  have written : ∀ field ∈ [Value.text "data", .text "read"],
      ∃ s, @Value.write start.host.toRuntime field = .ok s := by simp
  obtain ⟨changed, isNew, listed, deleted, isDone, added, _, _, lists, deletes, _, _, first⟩ :=
    addPermission_kept complete named trimmed written
  obtain ⟨_, isListed, isGone⟩ := first (by rw [model]; decide)
  exact ⟨start, changed, isNew, listed, deleted, isDone, created, complete, named, trimmed, written,
    added, lists, deletes, isListed, isGone⟩

/-- The classic model with the object in front of the subject. -/
def objectFirst : Model := { Model.classic with policies := [("p", ["obj", "sub", "act"])] }

/-- With the object in front of the subject, a new permission is not listed for its user, and it
outlasts the deletion of the user's permissions. -/
theorem permission_misplaced : ∃ start changed deleted,
    (create .empty .default objectFirst).result = .ok start ∧ start.model.validate = .ok () ∧
      Text.trim "alice" = "alice" ∧
      (start.addPermission (.text "alice") [.text "data", .text "read"]).result =
        .ok (changed, true) ∧
      changed.permissionsOf "p" "alice" "" = .ok [] ∧
      (changed.deletePermissionsOf (.text "alice")).result = .ok (deleted, false) ∧
      deleted.store.rules "p" = [["alice", "data", "read"]] := by
  obtain ⟨start, created⟩ : ∃ start, (create .empty .default objectFirst).result = .ok start :=
    setModel_ok rfl readMatchers_classic
  obtain ⟨model, empty⟩ := create_starts created
  have complete : start.model.validate = .ok () := model ▸ rfl
  have named : "alice" ≠ "" := by decide
  obtain ⟨changed, isNew, added, same, new, rules⟩ :=
    @addPermission_result _ complete "alice" [.text "data", .text "read"] (by simp)
  have own : permissionRule "alice" [.text "data", .text "read"] =
    ["alice", "data", "read"] := by decide
  -- The store is empty, so the rule is new, and it starts with the user.
  rw [empty, own] at new rules
  obtain rfl : isNew = true := new.mpr (by decide)
  -- But the subject is looked for behind the object.
  have place : changed.subjectPosition "p" = 1 := by
    rw [subjectPosition, position, same, model]
    decide
  have listed := changed.permissionsOf_name named "p"
  obtain ⟨deleted, isDone, deletes, done, left⟩ :=
    @deletePermissionsOf_result changed "alice" (same ▸ complete) named
  rw [place, rules] at listed done left
  -- So no rule has the user for its subject.
  obtain rfl : isDone = false := Bool.eq_false_iff.mpr (done.not.mpr (by decide))
  exact ⟨start, changed, deleted, created, complete, by decide, added, listed, deletes, left⟩

end Enforcer

end AccessControl
