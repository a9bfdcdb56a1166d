import AccessControl.Proofs.Enforcer.Load
import AccessControl.Proofs.Enforcer.Validity
import AccessControl.Proofs.Rule.Run

/-! What an enforcer stores is what calls of the store leave: each rule once, and all of them
normal. -/

namespace AccessControl

namespace Enforcer

variable {enforcer changed : Enforcer}

/-- New links for one grouping type leave the rules. -/
theorem relink_store {gtype : String} (relinks : (enforcer.relink gtype).result = .ok changed) :
    changed.store = enforcer.store := by
  obtain ⟨_, rfl⟩ := relink_cases relinks
  rfl

/-- A change to the rules of a policy type that succeeds leaves the rules that the store leaves. -/
theorem changePolicy_store {ptype : String} {change : Change} {isDone : Bool}
    (changes : (enforcer.changePolicy ptype change).result = .ok (changed, isDone)) :
    changed.store = @Store.after enforcer.host.toRuntime enforcer.store (.change ptype change) := by
  simp only [changePolicy] at changes
  split at changes
  · -- The type is one of policies, and the change is tried on the store.
    obtain ⟨stored, applied, changes⟩ := Logged.bind_ok.mp changes
    have applied : @Store.apply enforcer.host.toRuntime enforcer.store ptype change =
      .ok stored := applied
    cases stored with
    | none | some =>
      obtain ⟨rfl, _⟩ := Prod.mk.inj (Except.ok.inj changes)
      simp [Store.after, applied]
  · -- The type is none of policies.
    cases changes

/-- A change to the rules of a grouping type that succeeds leaves the rules that the store leaves,
with new links or without. -/
theorem changeGrouping_store {gtype : String} {change : Change} {isDone : Bool}
    (changes : (enforcer.changeGrouping gtype change).result = .ok (changed, isDone)) :
    changed.store = @Store.after enforcer.host.toRuntime enforcer.store (.change gtype change) := by
  simp only [changeGrouping] at changes
  split at changes
  · -- The type is one of groupings, and the change is tried on the store.
    obtain ⟨stored, applied, changes⟩ := Logged.bind_ok.mp changes
    have applied : @Store.apply enforcer.host.toRuntime enforcer.store gtype change =
      .ok stored := applied
    cases stored with
    -- Nothing is changed.
    | none =>
      obtain ⟨rfl, _⟩ := Prod.mk.inj (Except.ok.inj changes)
      simp [Store.after, applied]
    | some store =>
      -- The rules are stored before there are new links, and these leave them.
      by_cases builds : enforcer.config.buildsLinks = true
      · -- The links are built again.
        simp only [builds, if_true] at changes
        obtain ⟨linked, relinks, changes⟩ := Logged.bind_ok.mp changes
        obtain ⟨rfl, _⟩ := Prod.mk.inj (Except.ok.inj changes)
        simp [Store.after, applied, relink_store relinks]
      · -- They are not.
        simp only [builds] at changes
        obtain ⟨rfl, _⟩ := Prod.mk.inj (Except.ok.inj changes)
        simp [Store.after, applied]
  · -- The type is none of groupings.
    cases changes

/-- Writes keep the rules sound, as each of them is a call of the store or none. -/
theorem isSound_keptByWrites : KeptByWrites fun enforcer => enforcer.store.IsSound where
  policy sound changes := changePolicy_store changes ▸ sound.after _
  grouping sound changes := changeGrouping_store changes ▸ sound.after _
  load {enforcer changed policies groupings} sound loads := by
    obtain ⟨_, _, replaced⟩ := load_store loads
    have replaces : @Store.after changed.host.toRuntime enforcer.store
        (.replace (collectKeys (policies ++ groupings))) = changed.store := by
      have replaced : @Store.replace changed.host.toRuntime (collectKeys (policies ++ groupings)) =
        .ok changed.store := replaced
      simp [Store.after, replaced]
    exact replaces ▸ sound.after _
  clear _ := Store.isSound_empty
  build {enforcer changed} sound builds := by
    obtain rfl := Except.ok.inj ((buildLinks_result enforcer).symm.trans builds)
    exact sound

/-- A model that is accepted leaves the rules. -/
theorem setModel_store {model : Model} (accepts : (enforcer.setModel model).result = .ok changed) :
    changed.store = enforcer.store := by
  obtain ⟨matchers, warned, _, _, follows⟩ := setModel_cases accepts
  exact (followRules_store follows).trans rfl

/-- What is made of a model has this model and no rules. -/
theorem create_starts [Host] {functions : Registry} {config : Config} {model : Model}
    (created : (create functions config model).result = .ok enforcer) :
    enforcer.model = model ∧ enforcer.store = Store.empty := by
  refine ⟨?_, setModel_store created⟩
  obtain ⟨matchers, warned, _, _, follows⟩ := setModel_cases created
  exact (congrArg (·.model) (followRules_bare follows)).trans rfl

/-- An operation that is no write leaves the rules, whether it succeeds or fails. -/
theorem step_store {operation : Operation} (unwritten : ∀ write, operation ≠ .write write) :
    (enforcer.step operation).store = enforcer.store := by
  cases operation with
  | write write => exact absurd rfl (unwritten write)
  | setModel model =>
    -- Only the schemas and the managers are new.
    exact leave_induction (motive := (·.store = enforcer.store)) rfl fun changed made =>
      setModel_store made
  | setManager gtype hierarchy =>
    -- Only the links are new.
    exact leave_induction (motive := (·.store = enforcer.store)) rfl
      fun changed made => (relink_store made).trans rfl
  | setNameTest gtype label given =>
    refine leave_induction (motive := (·.store = enforcer.store)) rfl fun changed made => ?_
    -- Only a test of the manager is new.
    obtain ⟨h, test, _, rfl⟩ := setNameTest_cases made
    rfl
  | setDomainTest gtype label given =>
    refine leave_induction (motive := (·.store = enforcer.store)) rfl fun changed made => ?_
    obtain ⟨h, test, _, rfl⟩ := setDomainTest_cases made
    rfl
  | addFunction name given =>
    refine leave_induction (motive := (·.store = enforcer.store)) rfl fun changed made => ?_
    -- Only a function is new.
    obtain ⟨functions, rfl⟩ := addFunction_cases made
    rfl
  | enable given => rfl

/-- An operation keeps the rules sound, whether it succeeds or fails. -/
theorem isSound_step (sound : enforcer.store.IsSound) (operation : Operation) :
    (enforcer.step operation).store.IsSound := by
  by_cases written : ∃ write, operation = .write write
  · -- A write leaves normal rules.
    obtain ⟨write, rfl⟩ := written
    exact isSound_keptByWrites.write sound write
  · -- All other operations are about something else.
    rw [step_store fun write same => written ⟨write, same⟩]
    exact sound

/-- Whatever can be come by stores each rule of a type once, with a field at least and without
blanks at the ends of its fields. -/
theorem Reachable.isSound (reachable : enforcer.Reachable) : enforcer.store.IsSound := by
  induction reachable with
  | created configured created => exact (create_starts created).2 ▸ Store.isSound_empty
  | stepped before operation ih => exact isSound_step ih operation
  | modified before gtype edit ih => exact ih

end Enforcer

end AccessControl
