import AccessControl.Proofs.Text.Distinct
import AccessControl.Proofs.Value.Keys
import AccessControl.Role.Graph

/-! Indexes of edges: what an edge more or less changes, and that nothing empty is left behind. -/

namespace AccessControl

namespace EdgeIndex

section

variable {α : Type} {key other : String} {entries : List (String × α)}

/-- What is erased is not found any more, and all else is found as before. -/
theorem lookupKey_eraseKey :
    lookupKey other (eraseKey key entries) = if other =
      key then none else lookupKey other entries := by
  induction entries with
  | nil => simp [eraseKey]
  | cons entry rest ih =>
    rw [eraseKey] at ih ⊢
    by_cases erased : entry.1 = key
    · -- The entry goes, and no other key finds it.
      by_cases same : other = key
      · simpa [erased, same] using ih
      · -- Another key finds what it found before.
        have different : key ≠ other := Ne.symm same
        simpa [erased, lookupKey_cons, same, different] using ih
    · -- The entry stays, and is found by its own key.
      by_cases found : entry.1 = other
      · have different : other ≠ key := found ▸ erased
        simp [lookupKey_cons, found, different]
      · simpa [erased, lookupKey_cons, found] using ih

/-- A mapping is left by an erasure. -/
theorem isMapping_eraseKey {holds : α → Prop} (mapping : IsMapping holds entries) :
    IsMapping holds (eraseKey key entries) where
  distinct := mapping.distinct.sublist (List.filter_sublist.map _)
  each entry member := mapping.each entry (List.mem_filter.mp member).1

end

variable {index : EdgeIndex} {domain other source name target : String}

/-- An index keeps no domain without sources and no source without targets, and none of these
twice. -/
def IsTidy (index : EdgeIndex) : Prop :=
  IsMapping (fun sources => sources ≠ [] ∧
    IsMapping (fun targets : List String => targets ≠ [] ∧ targets.Nodup) sources) index

/-- The sources of a domain are a mapping, even of one that the index does not have. -/
theorem IsTidy.sources (tidy : index.IsTidy) (domain : String) :
    IsMapping (fun targets : List String => targets ≠ [] ∧ targets.Nodup)
      (index.sources domain) := by
  unfold EdgeIndex.sources
  cases found : lookupKey domain index with
  -- There is nothing in a domain that is not listed.
  | none => exact isMapping_nil
  -- What is listed is tidy.
  | some sources => exact (tidy.of_lookupKey found).2

/-- The targets of a source are different. -/
theorem IsTidy.nodup_targets (tidy : index.IsTidy) (domain source : String) :
    (index.targets domain source).Nodup := by
  unfold targets
  cases found : lookupKey source (index.sources domain) with
  -- There are no targets of a source that is not listed.
  | none => exact List.nodup_nil
  -- What is listed is tidy.
  | some targets => exact ((tidy.sources domain).of_lookupKey found).2

/-! ### An edge more -/

/-- An edge more is listed at its place, behind the others there, and nowhere else. -/
theorem targets_insert :
    (index.insert domain source target).targets other name =
      if other = domain ∧ name = source then index.targets domain source ++ [target]
      else index.targets other name := by
  by_cases within : other = domain
  · -- In its own domain the edge is one of its source.
    subst within
    by_cases same : name = source <;>
      simp [insert, targets, sources, lookupKey_insertKey, same]
  · -- No other domain is touched.
    simp [insert, targets, sources, lookupKey_insertKey, within]

/-- What is found with an edge more is that edge or was found before. -/
theorem mem_targets_insert {found : String} :
    found ∈ (index.insert domain source target).targets other name ↔
      (other = domain ∧ name = source ∧ found = target) ∨ found ∈ index.targets other name := by
  rw [targets_insert]
  by_cases place : other = domain ∧ name = source
  · -- Behind the targets of the source there is the new one.
    obtain ⟨rfl, rfl⟩ := place
    simp [or_comm]
  · -- Elsewhere no target is new.
    simp [place, ← and_assoc]

/-- An edge that is new leaves an index tidy. -/
theorem IsTidy.insert (tidy : index.IsTidy) (fresh : target ∉ index.targets domain source) :
    (index.insert domain source target).IsTidy := by
  have distinct : (index.targets domain source ++ [target]).Nodup :=
    (tidy.nodup_targets domain source).append (List.nodup_singleton target) (by simpa using fresh)
  have filled : index.targets domain source ++ [target] ≠ [] := by simp
  exact IsMapping.insert tidy ⟨insertKey_ne_nil, (tidy.sources domain).insert ⟨filled, distinct⟩⟩

/-! ### An edge less -/

/-- Entries with a list at a key, at which nothing is left if the list is empty. -/
def putList {α : Type} (key : String) (list : List α) (entries : List (String × List α)) :
    List (String × List α) :=
  if list.isEmpty then eraseKey key entries else insertKey key list entries

/-- What is put is listed, empty or not, and all else as before. -/
theorem lookupKey_putList {α : Type} {key other : String} {list : List α}
    {entries : List (String × List α)} :
    (lookupKey other (putList key list entries)).getD [] =
      if other = key then list else (lookupKey other entries).getD [] := by
  by_cases same : other = key <;> cases list <;>
    simp [putList, lookupKey_eraseKey, lookupKey_insertKey, same]

/-- A mapping to lists that are not empty stays one, for an empty list is not kept. -/
theorem isMapping_putList {α : Type} {holds : List α → Prop} {key : String} {list : List α}
    {entries : List (String × List α)}
    (mapping : IsMapping (fun list => list ≠ [] ∧ holds list) entries)
    (fits : holds list) :
    IsMapping (fun list => list ≠ [] ∧ holds list) (putList key list entries) := by
  cases list with
  -- No empty list is kept.
  | nil => exact isMapping_eraseKey mapping
  -- Any other list is put under its key.
  | cons first rest => exact mapping.insert ⟨List.cons_ne_nil first rest, fits⟩

/-- An edge less is put in two steps: what is left of the targets, and what that leaves of the
sources. -/
theorem erase_eq_putList :
    index.erase domain source target =
      putList domain (putList source ((index.targets domain source).filter (· != target))
        (index.sources domain)) index := rfl

/-- An edge less is not listed at its place any more, and all others are. -/
theorem targets_erase :
    (index.erase domain source target).targets other name =
      if other = domain ∧ name = source then (index.targets domain source).filter (· != target)
      else index.targets other name := by
  rw [erase_eq_putList, targets, EdgeIndex.sources, lookupKey_putList]
  by_cases within : other = domain
  · -- In its own domain the edge is one of its source.
    subst within
    simp [lookupKey_putList, targets]
  · -- No other domain is touched.
    simp [within, targets, EdgeIndex.sources]

/-- What is found with an edge less was found before and is not that edge. -/
theorem mem_targets_erase {found : String} :
    found ∈ (index.erase domain source target).targets other name ↔
      found ∈ index.targets other name ∧ ¬(other = domain ∧ name = source ∧ found = target) := by
  rw [targets_erase]
  by_cases place : other = domain ∧ name = source
  · -- All targets of the source but one are kept.
    obtain ⟨rfl, rfl⟩ := place
    simp
  · -- Elsewhere no target is gone.
    simp [place, ← and_assoc]

/-- An edge less leaves an index tidy. -/
theorem IsTidy.erase (tidy : index.IsTidy) (domain source target : String) :
    (index.erase domain source target).IsTidy := by
  have distinct := (tidy.nodup_targets domain source).filter (· != target)
  exact isMapping_putList tidy (isMapping_putList (tidy.sources domain) distinct)

/-! ### Many edges at once -/

section

variable {α : Type}

/-- The items of each key, the keys and the items of each of them in the order of their arrival. -/
def groups (pairs : List (String × α)) : List (String × List α) :=
  (Text.distinct (pairs.map (·.1))).map fun key => (key, (pairs.filter (·.1 == key)).map (·.2))

/-- The items of a key are those that come with it, and there are none without it. -/
theorem lookupKey_groups {pairs : List (String × α)} {key : String} :
    (lookupKey key (groups pairs)).getD [] = (pairs.filter (·.1 == key)).map (·.2) := by
  by_cases known : key ∈ pairs.map (·.1)
  · -- The key is listed, with its items.
    have listed : key ∈ Text.distinct (pairs.map (·.1)) := Text.mem_distinct.mpr known
    rw [groups, lookupKey_tabulate, if_pos listed, Option.getD_some]
  · -- There is no item for a key that is not listed.
    have none_left : pairs.filter (·.1 == key) = [] := by
      refine List.filter_eq_nil_iff.mpr fun pair member same => known ?_
      exact List.mem_map.mpr ⟨pair, member, beq_iff_eq.mp same⟩
    have unlisted : key ∉ Text.distinct (pairs.map (·.1)) := known ∘ Text.mem_distinct.mp
    rw [groups, lookupKey_tabulate, if_neg unlisted, none_left, Option.getD_none, List.map_nil]

/-- One more item comes behind the others of its key. -/
theorem groups_concat (pairs : List (String × α)) (key : String) (item : α) :
    groups (pairs ++ [(key, item)]) =
      insertKey key ((lookupKey key (groups pairs)).getD [] ++ [item]) (groups pairs) := by
  -- Only the items of this key are more than they were.
  have items (other : String) : ((pairs ++ [(key, item)]).filter (·.1 == other)).map (·.2) =
      if other = key then (lookupKey key (groups pairs)).getD [] ++ [item]
      else (pairs.filter (·.1 == other)).map (·.2) := by
    rw [lookupKey_groups]
    by_cases same : other = key
    · simp [same]
    · simp [same, Ne.symm same]
  have keys : (pairs ++ [(key, item)]).map (·.1) = pairs.map (·.1) ++ [key] := by simp
  rw [groups, keys, Text.distinct_concat]
  simp only [items]
  split <;> rename_i known
  · -- The key is known, so its items are put in their place.
    exact (insertKey_tabulate (Text.nodup_distinct _) (by simpa using known)).symm
  · -- The key is new, so it comes last, and all keys before it are others.
    have fresh : key ∉ (groups pairs).map (·.1) := by simpa [groups] using known
    have others : ∀ other ∈ Text.distinct (pairs.map (·.1)), other ≠ key := by
      rintro other member rfl
      exact known (by simpa using member)
    rw [insertKey_of_notMem fresh, List.map_append, List.map_singleton, if_pos rfl, groups]
    congr 1
    exact List.map_congr_left fun other member => by rw [if_neg (others other member)]

end

/-- The index of edges has them in groups by domain, and these in groups by source. -/
theorem ofEdges_eq_groups (edges : List (String × String × String)) :
    ofEdges edges = (groups edges).map fun inside => (inside.1, groups inside.2) := by
  simp [ofEdges, groups]

/-- The sources of a domain are those of the edges inside it. -/
theorem sources_ofEdges {edges : List (String × String × String)} :
    (ofEdges edges).sources domain = groups ((lookupKey domain (groups edges)).getD []) := by
  rw [EdgeIndex.sources, ofEdges_eq_groups, lookupKey_mapValues]
  cases lookupKey domain (groups edges) <;> rfl

/-- The index of edges is built by an insertion of each. -/
theorem ofEdges_concat (edges : List (String × String × String)) (domain source target : String) :
    ofEdges (edges ++ [(domain, source, target)]) =
      (ofEdges edges).insert domain source target := by
  rw [insert, targets, sources_ofEdges, ← groups_concat, ofEdges_eq_groups edges,
    insertKey_mapValues (groups : List (String × String) → _), ← groups_concat, ← ofEdges_eq_groups]

end EdgeIndex

end AccessControl
