import AccessControl.Value.Basic
import Mathlib.Data.List.Induction
import Mathlib.Data.List.Nodup

/-! Entries by key: what insertion changes, and what it leaves as it was. -/

namespace AccessControl

variable {α : Type} {key other : String} {value : α} {entries : List (String × α)}

/-- Nothing is found without entries. -/
@[simp] theorem lookupKey_nil : lookupKey key ([] : List (String × α)) = none := rfl

/-- The first entry is found under its key, and all others are asked for behind it. -/
theorem lookupKey_cons (entry : String × α) :
    lookupKey key (entry :: entries) =
      if entry.1 = key then some entry.2 else lookupKey key entries := by
  by_cases same : entry.1 = key <;> simp [lookupKey, same]

/-- Insertion gives a value to its key and leaves all others. -/
theorem lookupKey_insertKey :
    lookupKey other (insertKey key value entries) =
      if other = key then some value else lookupKey other entries := by
  -- The entry that gives way to the new one has the same key, so no other key finds it.
  induction entries with
  | nil => simp [insertKey, lookupKey_cons, eq_comm]
  | cons entry rest ih =>
    by_cases same : entry.1 = key
    · -- The first entry gives way to the new one.
      by_cases asked : key = other <;> simp [insertKey, lookupKey_cons, same, asked, eq_comm]
    · -- The first entry stays, and so does what its own key finds.
      by_cases asked : other = key
      · subst asked
        simp [insertKey, lookupKey_cons, same, ih]
      · simp [insertKey, lookupKey_cons, same, ih, asked]

/-- The inserted value is found under its key. -/
@[simp] theorem lookupKey_insertKey_self :
    lookupKey key (insertKey key value entries) = some value := by
  simp [lookupKey_insertKey]

/-- Under another key the same is found as before. -/
theorem lookupKey_insertKey_of_ne (different : other ≠ key) :
    lookupKey other (insertKey key value entries) = lookupKey other entries := by
  simp [lookupKey_insertKey, different]

/-- A key has a value exactly if it is the key of an entry. -/
theorem lookupKey_isSome : (lookupKey key entries).isSome = true ↔ key ∈ entries.map (·.1) := by
  simp [lookupKey]

/-- A key has no value exactly if it is not the key of an entry. -/
theorem lookupKey_isNone : (lookupKey key entries).isNone = true ↔ key ∉ entries.map (·.1) := by
  rw [← lookupKey_isSome, Bool.not_eq_true, Option.isSome_eq_false_iff]

/-- A value that is found is that of an entry. -/
theorem mem_of_lookupKey (found : lookupKey key entries = some value) : (key, value) ∈ entries := by
  obtain ⟨entry, first, rfl⟩ := Option.map_eq_some_iff.mp found
  obtain rfl : entry.1 = key := by simpa using List.find?_some first
  exact List.mem_of_find?_eq_some first

/-- Insertion adds its key to the keys, unless it is one of them. -/
theorem mem_keys_insertKey :
    other ∈ (insertKey key value entries).map (·.1) ↔ other = key ∨ other ∈ entries.map (·.1) := by
  rw [← lookupKey_isSome, ← lookupKey_isSome, lookupKey_insertKey]
  by_cases same : other = key <;> simp [same]

/-- Insertion keeps the keys different. -/
theorem nodup_keys_insertKey (distinct : (entries.map (·.1)).Nodup) :
    ((insertKey key value entries).map (·.1)).Nodup := by
  induction entries with
  | nil => simp [insertKey]
  | cons entry rest ih =>
    obtain ⟨fresh, distinct⟩ := List.nodup_cons.mp distinct
    by_cases same : entry.1 = key
    · -- The entry gives way to one of the same key.
      simpa [insertKey, same] using List.nodup_cons.mpr ⟨same ▸ fresh, distinct⟩
    · -- The entry stays, and the new key is not its own.
      have absent : entry.1 ∉ (insertKey key value rest).map (·.1) := by
        rw [mem_keys_insertKey]
        exact fun either => either.elim same fresh
      simpa [insertKey, same] using List.nodup_cons.mpr ⟨absent, ih distinct⟩

/-- An entry after an insertion is the inserted one or one from before. -/
theorem mem_insertKey {entry : String × α} (member : entry ∈ insertKey key value entries) :
    entry = (key, value) ∨ entry ∈ entries := by
  induction entries with
  | nil => exact .inl (List.mem_singleton.mp member)
  | cons first rest ih =>
    simp only [insertKey] at member
    split at member
    · -- The new entry has taken the place of the first one.
      rcases List.mem_cons.mp member with inserted | later
      · exact .inl inserted
      · exact .inr (List.mem_cons_of_mem _ later)
    · -- The first entry has stayed, and the new one is later.
      rcases List.mem_cons.mp member with rfl | later
      · exact .inr (List.mem_cons_self ..)
      · exact (ih later).imp_right (List.mem_cons_of_mem _)

/-- With different keys exactly the values of entries are found. -/
theorem lookupKey_eq_some_iff (distinct : (entries.map (·.1)).Nodup) :
    lookupKey key entries = some value ↔ (key, value) ∈ entries := by
  refine ⟨mem_of_lookupKey, fun member => ?_⟩
  obtain ⟨found, looked⟩ := Option.isSome_iff_exists.mp
    (lookupKey_isSome.mpr (List.mem_map_of_mem member))
  -- The entry that is found has the same key, so it is this one.
  obtain rfl : found = value := congrArg Prod.snd
    (List.inj_on_of_nodup_map distinct (mem_of_lookupKey looked) member rfl)
  exact looked

/-- After an insertion there is an entry. -/
theorem insertKey_ne_nil : insertKey key value entries ≠ [] := by
  cases entries with
  | nil => simp [insertKey]
  | cons entry rest =>
    rw [insertKey]
    split <;> exact List.cons_ne_nil _ _

/-- A new key comes last. -/
theorem insertKey_of_notMem (fresh : key ∉ entries.map (·.1)) :
    insertKey key value entries = entries ++ [(key, value)] := by
  induction entries with
  | nil => rfl
  | cons entry rest ih =>
    -- The first entry has another key, so it stays.
    obtain ⟨different, absent⟩ : key ≠ entry.1 ∧ key ∉ rest.map (·.1) := by simpa using fresh
    simp [insertKey, different.symm, ih absent]

/-- A value that is found is inserted without effect. -/
theorem insertKey_of_lookupKey (found : lookupKey key entries = some value) :
    insertKey key value entries = entries := by
  induction entries with
  | nil => cases found
  | cons entry rest ih =>
    rw [lookupKey_cons] at found
    by_cases same : entry.1 = key
    · -- The entry gives way to one of the same key and value.
      obtain rfl : entry.2 = value := by simpa [same] using found
      subst same
      simp [insertKey]
    · -- The key is found later, and the first entry stays.
      have later : lookupKey key rest = some value := by simpa [same] using found
      simp [insertKey, same, ih later]

/-- The last value that is inserted for a key is the one that counts. -/
@[simp] theorem insertKey_insertKey (last : α) :
    insertKey key last (insertKey key value entries) = insertKey key last entries := by
  induction entries with
  | nil => simp [insertKey]
  | cons entry rest ih => by_cases same : entry.1 = key <;> simp [insertKey, same, ih]

/-! ### Entries in a row -/

/-- Further entries are asked for only where the first ones have nothing. -/
theorem lookupKey_append (more : List (String × α)) :
    lookupKey key (entries ++ more) = (lookupKey key entries).or (lookupKey key more) := by
  induction entries with
  | nil => rfl
  | cons entry rest ih =>
    rw [List.cons_append, lookupKey_cons, lookupKey_cons, ih]
    -- What is found in the first list hides what is found in the second.
    split <;> rfl

/-- With different keys it makes no difference from which end they are asked for. -/
theorem lookupKey_reverse (distinct : (entries.map (·.1)).Nodup) :
    lookupKey key entries.reverse = lookupKey key entries := by
  have reversed : (entries.reverse.map (·.1)).Nodup := by
    rw [List.map_reverse]
    exact List.nodup_reverse.mpr distinct
  ext value
  rw [lookupKey_eq_some_iff reversed, lookupKey_eq_some_iff distinct, List.mem_reverse]

/-- The last entry is inserted into what is collected of the others. -/
theorem collectKeys_concat (earlier : List (String × α)) (last : String × α) :
    collectKeys (earlier ++ [last]) = insertKey last.1 last.2 (collectKeys earlier) := by
  simp [collectKeys, List.foldl_append]

/-- A key that is collected has the last of its values. -/
theorem lookupKey_collectKeys :
    lookupKey key (collectKeys entries) = lookupKey key entries.reverse := by
  -- The last entry is inserted last, so that its value stands for its key.
  induction entries using List.reverseRecOn with
  | nil => rfl
  | append_singleton earlier last ih =>
    rw [collectKeys_concat, lookupKey_insertKey, ih, List.reverse_concat, lookupKey_cons]
    by_cases same : last.1 = key
    · -- The last entry is the one that is found.
      simp [same]
    · -- Another key is found among the earlier ones.
      simp [same, Ne.symm same]

/-- The keys of all entries are collected, and no others. -/
theorem mem_keys_collectKeys :
    key ∈ (collectKeys entries).map (·.1) ↔ key ∈ entries.map (·.1) := by
  rw [← lookupKey_isSome, lookupKey_collectKeys, lookupKey_isSome, List.map_reverse,
    List.mem_reverse]

/-- Of two lists with different keys the second one counts where both have a key. -/
theorem lookupKey_collectKeys_append {more : List (String × α)}
    (distinct : (entries.map (·.1)).Nodup) (distinctToo : (more.map (·.1)).Nodup) :
    lookupKey key (collectKeys (entries ++ more)) =
      (lookupKey key more).or (lookupKey key entries) := by
  rw [lookupKey_collectKeys, List.reverse_append, lookupKey_append, lookupKey_reverse distinctToo,
    lookupKey_reverse distinct]

/-- The keys that are collected are different. -/
theorem nodup_keys_collectKeys : ((collectKeys entries).map (·.1)).Nodup := by
  induction entries using List.reverseRecOn with
  | nil => exact List.nodup_nil
  | append_singleton earlier last ih =>
    rw [collectKeys_concat]
    exact nodup_keys_insertKey ih

/-- Entries with different keys are all collected, in their order. -/
theorem collectKeys_of_nodup (distinct : (entries.map (·.1)).Nodup) :
    collectKeys entries = entries := by
  induction entries using List.reverseRecOn with
  | nil => rfl
  | append_singleton earlier last ih =>
    -- The last key is none of those before it, so its entry comes last.
    rw [List.map_append, List.nodup_append] at distinct
    obtain ⟨before, _, apart⟩ := distinct
    have fresh : last.1 ∉ earlier.map (·.1) := fun listed =>
      apart last.1 listed last.1 (List.mem_singleton_self _) rfl
    rw [collectKeys_concat, ih before, insertKey_of_notMem fresh]

/-- What is collected is one of the entries. -/
theorem mem_of_mem_collectKeys {entry : String × α} (member : entry ∈ collectKeys entries) :
    entry ∈ entries := by
  induction entries using List.reverseRecOn with
  | nil => simp [collectKeys] at member
  | append_singleton earlier last ih =>
    rw [collectKeys_concat] at member
    rcases mem_insertKey member with rfl | before
    · -- The entry is the last one.
      simp
    · -- It is one of the earlier ones.
      exact List.mem_append_left _ (ih before)

/-! ### Keys with the values of a function -/

/-- A key among these has the value of the function. -/
theorem lookupKey_tabulate {keys : List String} {values : String → α} :
    lookupKey key (keys.map fun key => (key, values key)) =
      if key ∈ keys then some (values key) else none := by
  induction keys with
  | nil => rfl
  | cons first rest ih =>
    rw [List.map_cons, lookupKey_cons, ih]
    by_cases same : first = key
    · -- The key is the first.
      simp [same]
    · -- It is one of the others, if any.
      simp [same, Ne.symm same]

/-- A value for a key among these is one of a function that differs there. -/
theorem insertKey_tabulate {keys : List String} {values : String → α} (distinct : keys.Nodup)
    (member : key ∈ keys) :
    insertKey key value (keys.map fun key => (key, values key)) =
      keys.map fun other => (other, if other = key then value else values other) := by
  induction keys with
  | nil => exact absurd member List.not_mem_nil
  | cons first rest ih =>
    obtain ⟨fresh, distinct⟩ := List.nodup_cons.mp distinct
    by_cases same : first = key
    · -- The key is not among the others, so they have the values that they had.
      subst same
      have others : ∀ other ∈ rest, other ≠ first :=
        fun other member equal => fresh (equal ▸ member)
      simp +contextual [insertKey, others]
    · -- The first key is another one, and keeps its value.
      have later : key ∈ rest := by simpa [Ne.symm same] using member
      simp [insertKey, same, ih distinct later]

/-! ### Mappings -/

/-- The keys of the entries are different, and all their values are of a kind. -/
structure IsMapping (holds : α → Prop) (entries : List (String × α)) : Prop where
  distinct : (entries.map (·.1)).Nodup
  each : ∀ entry ∈ entries, holds entry.2

/-- Without entries there is nothing to say of them. -/
theorem isMapping_nil {holds : α → Prop} : IsMapping holds [] where
  distinct := List.nodup_nil
  each := by simp

/-- A value of the kind can be inserted. -/
theorem IsMapping.insert {holds : α → Prop} (mapping : IsMapping holds entries)
    (fits : holds value) : IsMapping holds (insertKey key value entries) where
  distinct := nodup_keys_insertKey mapping.distinct
  each entry member := by
    rcases mem_insertKey member with rfl | before
    · -- The new entry has the new value.
      exact fits
    · -- An entry from before has its own.
      exact mapping.each entry before

/-- A value that is found is of the kind. -/
theorem IsMapping.of_lookupKey {holds : α → Prop} (mapping : IsMapping holds entries)
    (found : lookupKey key entries = some value) : holds value :=
  mapping.each _ (mem_of_lookupKey found)

section

variable {items : List (String × List α)} {item : α}

/-- With different keys an item is found under a key exactly if an entry of that key lists it. -/
theorem mem_lookupKey (distinct : (items.map (·.1)).Nodup) :
    item ∈ (lookupKey key items).getD [] ↔ ∃ entry ∈ items, entry.1 = key ∧ item ∈ entry.2 := by
  constructor
  · -- What is listed is in the entry that is found.
    intro listed
    cases found : lookupKey key items with
    | none => simp [found] at listed
    | some list => exact ⟨_, mem_of_lookupKey found, rfl, by simpa [found] using listed⟩
  · -- An entry with the key is the one that is found.
    rintro ⟨entry, member, rfl, listed⟩
    rw [(lookupKey_eq_some_iff distinct).mpr member, Option.getD_some]
    exact listed

/-- With different keys, lists of different items that tell their keys have no item in common. -/
theorem nodup_flatMap {β : Type} {entries : List (String × β)} {list : String × β → List α}
    (distinct : (entries.map (·.1)).Nodup) (each : ∀ entry ∈ entries, (list entry).Nodup)
    (keyOf : α → String) (tells : ∀ entry, ∀ item ∈ list entry, keyOf item = entry.1) :
    (entries.flatMap list).Nodup := by
  refine List.nodup_flatMap.mpr ⟨each, (List.pairwise_map.mp distinct).imp ?_⟩
  intro first second different item ofFirst ofSecond
  exact different ((tells first item ofFirst).symm.trans (tells second item ofSecond))

end

/-! ### Changes to all values -/

/-- A change to all values is one to the value that is found. -/
theorem lookupKey_mapValues {β : Type} (change : α → β) :
    lookupKey key (entries.map fun entry => (entry.1, change entry.2)) =
      (lookupKey key entries).map change := by
  induction entries with
  | nil => rfl
  | cons entry rest ih =>
    rw [List.map_cons, lookupKey_cons, lookupKey_cons]
    by_cases same : entry.1 = key <;> simp [same, ih]

/-- A change to all values can be made before an insertion or after it. -/
theorem insertKey_mapValues {β : Type} (change : α → β) :
    insertKey key (change value) (entries.map fun entry => (entry.1, change entry.2)) =
      (insertKey key value entries).map fun entry => (entry.1, change entry.2) := by
  induction entries with
  | nil => rfl
  | cons entry rest ih => by_cases same : entry.1 = key <;> simp [insertKey, same, ih]

end AccessControl
