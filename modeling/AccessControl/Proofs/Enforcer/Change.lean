import AccessControl.Proofs.Enforcer.Validity

/-! What a change to rules comes to once the store has told what becomes of these: it takes place,
and the links follow it. -/

namespace AccessControl

namespace Enforcer

variable {enforcer : Enforcer} {stored : Option Store}

/-- The enforcer with what is to be stored for a grouping type, if anything, and with the links of
that, if the configuration asks for them. -/
def published (enforcer : Enforcer) (gtype : String) : Option Store → Enforcer
  | none => enforcer
  | some store =>
    if enforcer.config.buildsLinks then
      modifyManager { enforcer with store := store } gtype
        fun manager => manager.rebuilt (Link.ofRules (store.rules gtype))
    else { enforcer with store := store }

/-- What is to be stored is stored, with links or without. -/
@[simp] theorem published_store (gtype : String) :
    (enforcer.published gtype stored).store = stored.getD enforcer.store := by
  cases stored with
  -- Nothing is published.
  | none => rfl
  | some store =>
    -- The store is new, and the links may be.
    simp only [published]
    split <;> rfl

/-- The hierarchy of a grouping type gets the links of what is stored, and keeps the rest of what it
is. -/
theorem find?_published (seated : enforcer.roster.IsSeated)
    (builds : enforcer.config.buildsLinks = true)
    {gtype : String} {h : Hierarchy} (found : enforcer.roster.find? gtype = some (.hierarchy h))
    (store : Store) :
    (enforcer.published gtype (some store)).roster.find? gtype =
      some (.hierarchy { h with graph := .ofLinks (Link.ofRules (store.rules gtype)) }) := by
  simp [published, builds, modifyManager, Roster.find?_modify seated, found, RoleManager.rebuilt]

/-- Rules of a declared policy type are changed as the store changes them. -/
theorem changePolicy_of_apply {ptype : String} {change : Change}
    (declared : enforcer.model.isPolicyType ptype = true)
    (applied : enforcer.changedStore ptype change = .ok stored) :
    (enforcer.changePolicy ptype change).result =
      .ok ({ enforcer with store := stored.getD enforcer.store }, stored.isSome) := by
  simp only [changePolicy, declared, if_true, Logged.result_bind, Logged.result_ofExcept, applied,
    ok_bind]
  cases stored <;> rfl

/-- Rules of a declared grouping type are changed as the store changes them, and in a valid enforcer
new links do not fail afterwards. -/
theorem IsValid.changeGrouping_of_apply (valid : enforcer.IsValid) {gtype : String}
    {change : Change} (declared : enforcer.model.isGroupingType gtype = true)
    (applied : enforcer.changedStore gtype change = .ok stored) :
    (enforcer.changeGrouping gtype change).result =
      .ok (enforcer.published gtype stored, stored.isSome) := by
  simp only [changeGrouping, declared, if_true, Logged.result_bind, Logged.result_ofExcept, applied,
    ok_bind]
  cases stored with
  | none => rfl
  | some store =>
    by_cases builds : enforcer.config.buildsLinks = true
    · -- The manager that is to be linked is there whatever is stored.
      obtain ⟨manager, found⟩ := valid.managed gtype declared
      have present : Enforcer.manager { enforcer with store := store } gtype = .ok manager :=
        manager_eq_ok.mpr found
      simp only [builds, if_true, relink, Logged.result_bind, Logged.result_ofExcept,
        present, ok_bind, Logged.result_note, Logged.result_pure, published]
      rfl
    · -- The links are left as they are.
      simp only [builds, published]
      rfl

end Enforcer

end AccessControl
