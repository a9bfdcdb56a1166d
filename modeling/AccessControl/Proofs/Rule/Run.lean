import AccessControl.Proofs.Rule.Store

/-! Whatever a store is asked to write, and whether or not that fails, each type has each of its
rules once, all rules are normal, and the rules that stay keep their order. -/

namespace AccessControl

/-- What a store can be asked to write. -/
inductive StoreCall
  | change (ptype : String) (change : Change)
  | load (given : List (String × Value))
  | replace (given : List (String × Value))
  | clear

/-- The call brings rules of its own in the place of those of a type. -/
def StoreCall.bringsRules : StoreCall → Bool
  | .load _ | .replace _ => true
  | .change .. | .clear => false

namespace Store

/-- The store after a call, whether it succeeds, has nothing to do or fails. -/
def after [Runtime] (store : Store) : StoreCall → Store
  | .change ptype change =>
    match store.apply ptype change with
    | .ok stored => stored.getD store
    | .error _ => store
  | .load given =>
    match store.load given with
    | .ok loaded => loaded
    | .error _ => store
  | .replace given =>
    match replace given with
    | .ok replaced => replaced
    | .error _ => store
  | .clear => empty

/-- The store after calls in a row. -/
def run [Runtime] (store : Store) (calls : List StoreCall) : Store :=
  calls.foldl after store

/-- No type has a rule twice, and all rules are normal. -/
structure IsSound (store : Store) : Prop where
  distinct : ∀ ptype, (store.rules ptype).Nodup
  normal : ∀ ptype, ∀ rule ∈ store.rules ptype, rule.IsNormal

variable {runtime : Runtime} {store : Store}

/-- The store without rules is sound. -/
theorem isSound_empty : empty.IsSound where
  distinct _ := List.nodup_nil
  normal _ := by simp [empty, rules]

/-- Rules that are different and normal can be published. -/
theorem IsSound.publish (sound : store.IsSound) (ptype : String) {rules : List Rule}
    (distinct : rules.Nodup) (normal : ∀ rule ∈ rules, rule.IsNormal) :
    (store.publish ptype rules).IsSound where
  distinct other := by
    rw [rules_publish]
    -- Under the type are the new rules, and under any other one those from before.
    split
    · exact distinct
    · exact sound.distinct other
  normal other := by
    rw [rules_publish]
    split
    · exact normal
    · exact sound.normal other

/-- Tables of such rules can be published one after the other. -/
theorem IsSound.publishEach (sound : store.IsSound) {tables : List (String × List Rule)}
    (each : ∀ table ∈ tables, table.2.Nodup ∧ ∀ rule ∈ table.2, rule.IsNormal) :
    (tables.foldl (fun store table => store.publish table.1 table.2) store).IsSound := by
  -- The induction is on the tables, for any sound store that they are published in.
  induction tables generalizing store with
  | nil => exact sound
  | cons table rest ih =>
    obtain ⟨distinct, normal⟩ := each table (List.mem_cons_self ..)
    exact ih (sound.publish table.1 distinct normal)
      fun other member => each other (List.mem_cons_of_mem _ member)

/-- The rules that are prepared for a type are different and normal. -/
theorem prepare_sound {given : List (String × Value)} {tables : List (String × List Rule)}
    (prepared : prepare given = .ok tables) :
    ∀ table ∈ tables, table.2.Nodup ∧ ∀ rule ∈ table.2, rule.IsNormal := by
  induction given generalizing tables with
  | nil =>
    obtain rfl := Except.ok.inj prepared
    simp
  | cons first rest ih =>
    obtain ⟨rules, more, gives, later, rfl⟩ := prepare_cons_eq_ok.mp prepared
    intro table member
    rcases List.mem_cons.mp member with rfl | member
    · exact ⟨Text.nodup_distinct rules, fun rule among =>
        -- A rule of the type is one that was given, only that repetitions are left out.
        Rule.isNormal_of_listOfValue gives rule (Text.mem_distinct.mp among)⟩
    · exact ih later table member

/-- Whatever a call does, it leaves a sound store. -/
theorem IsSound.after (sound : store.IsSound) (call : StoreCall) : (store.after call).IsSound := by
  -- In every case the store is the one before, or new rules of types have been published.
  cases call with
  | change ptype change =>
    simp only [Store.after]
    split
    · rename_i stored applied
      cases stored with
      -- There was nothing to do.
      | none => exact sound
      | some next =>
        -- The rules of one type are rewritten, which keeps them different and normal.
        obtain ⟨rules, rfl, rewrite⟩ := apply_rewrites applied
        exact sound.publish ptype (rewrite.nodup (sound.distinct ptype))
          (rewrite.isNormal (sound.normal ptype))
    · -- The change failed.
      exact sound
  | load given =>
    simp only [Store.after]
    split
    · rename_i loaded loads
      -- All tables were prepared before the first of them is published.
      obtain ⟨tables, prepared, loads⟩ := bind_eq_ok.mp loads
      obtain rfl := Except.ok.inj loads
      exact sound.publishEach (prepare_sound prepared)
    · -- Some rule cannot be made, so nothing is published.
      exact sound
  | replace given =>
    simp only [Store.after]
    split
    · rename_i replaced replaces
      obtain ⟨tables, prepared, replaces⟩ := bind_eq_ok.mp replaces
      obtain rfl := Except.ok.inj replaces
      -- Nothing from before is left, so the rules of a type are those of its table.
      have table (ptype : String) : (Store.rules ⟨tables⟩ ptype).Nodup ∧
          ∀ rule ∈ Store.rules ⟨tables⟩ ptype, rule.IsNormal := by
        cases found : lookupKey ptype tables with
        | none => simp [Store.rules, found]
        | some rules =>
          simpa [Store.rules, found] using prepare_sound prepared _ (mem_of_lookupKey found)
      exact ⟨fun ptype => (table ptype).1, fun ptype => (table ptype).2⟩
    · exact sound
  | clear => exact isSound_empty

/-- Calls in a row leave a sound store. -/
theorem IsSound.run (sound : store.IsSound) (calls : List StoreCall) :
    (store.run calls).IsSound := by
  induction calls generalizing store with
  | nil => exact sound
  | cons call rest ih => exact ih (sound.after call)

/-- The rules of a type that a call leaves in place are in the same order before it and after it,
unless it brings rules of its own. -/
theorem sameOrder_after (store : Store) {call : StoreCall} (changes : call.bringsRules = false)
    (ptype : String) :
    (store.rules ptype).filter (· ∈ (store.after call).rules ptype) =
      ((store.after call).rules ptype).filter (· ∈ store.rules ptype) := by
  cases call with
  | change changed change =>
    cases applied : store.apply changed change with
    -- Neither a change that fails nor one that has nothing to do moves a rule.
    | error error => simp [Store.after, applied]
    | ok stored =>
      cases stored with
      | none => simp [Store.after, applied]
      | some next =>
        obtain ⟨rules, rfl, rewrite⟩ := apply_rewrites applied
        simp only [Store.after, applied, Option.getD_some, rules_publish]
        split
        · -- The rules of the type are rewritten in place.
          rename_i same
          exact same ▸ rewrite.sameOrder
        · -- The rules of another type are untouched.
          rfl
  -- The call brings rules of its own.
  | load given => cases changes
  | replace given => cases changes
  -- Nothing is left to be in any order.
  | clear => simp [Store.after, Store.rules, empty]

end Store

end AccessControl
