import AccessControl.Proofs.Role.Search
import Mathlib.Data.Finset.Card

/-! A queue finds everything that can be reached from a name, by however many steps. -/

namespace AccessControl

/-! ### Unseen names -/

/-- The unseen names are those that were not seen. -/
theorem mem_unseen {seen names : List String} {name : String} :
    name ∈ unseen seen names ↔ name ∈ names ∧ name ∉ seen := by
  -- A name that is taken is seen from then on, so the seen names stay quantified over.
  induction names generalizing seen with
  | nil => simp [unseen]
  | cons first rest ih =>
    by_cases old : first ∈ seen
    · simp only [unseen, List.contains_iff_mem, old, if_true, ih, List.mem_cons]
      constructor
      · exact fun ⟨listed, fresh⟩ => ⟨.inr listed, fresh⟩
      · rintro ⟨rfl | listed, fresh⟩
        · exact absurd old fresh
        · exact ⟨listed, fresh⟩
    · simp only [unseen, List.contains_iff_mem, old, if_false, ih, List.mem_cons, not_or]
      constructor
      · rintro (rfl | ⟨listed, _, fresh⟩)
        · exact ⟨.inl rfl, old⟩
        · exact ⟨.inr listed, fresh⟩
      · rintro ⟨rfl | listed, fresh⟩
        · exact .inl rfl
        · by_cases same : name = first
          · exact .inl same
          · exact .inr ⟨listed, same, fresh⟩

/-- Unseen names are all different. -/
theorem nodup_unseen (seen names : List String) : (unseen seen names).Nodup := by
  induction names generalizing seen with
  | nil => exact List.nodup_nil
  | cons first rest ih =>
    unfold unseen
    split
    · exact ih seen
    · -- The first name is seen by the rest, so it is not taken again.
      refine List.nodup_cons.mpr ⟨fun again => ?_, ih _⟩
      exact (mem_unseen.mp again).2 (List.mem_cons_self ..)

/-! ### The queue -/

/-- A target is one of the names that a step leads to. -/
def StepsBy (step : String → Except Error (List String)) (name target : String) : Prop :=
  ∃ targets, step name = .ok targets ∧ target ∈ targets

/-- The queue holds seen names, and from all other seen names a step leads to seen names alone. -/
structure IsQueued (step : String → Except Error (List String))
    (seen queue : List String) : Prop where
  waiting : ∀ name ∈ queue, name ∈ seen
  settled : ∀ name ∈ seen, name ∉ queue → ∀ target, StepsBy step name target → target ∈ seen

variable {step : String → Except Error (List String)}

/-- What is reached from a seen name, but not seen, is reached from the queue. -/
theorem IsQueued.crosses {seen queue : List String} (queued : IsQueued step seen queue)
    {length : Nat}
    {name final : String} (walk : Walk (StepsBy step) length name final) (old : name ∈ seen)
    (fresh : final ∉ seen) : ∃ start ∈ queue, ∃ length, Walk (StepsBy step) length start final := by
  -- The walk is followed from its start until it meets a name of the queue.
  induction walk with
  | here name => exact absurd old fresh
  | @onward length name next final first rest ih =>
    by_cases here : name ∈ queue
    · exact ⟨name, here, length + 1, .onward first rest⟩
    · exact ih (queued.settled name old here next first) fresh

/-- After the targets of its first name have been appended, the queue holds what is left to go on
from. -/
theorem IsQueued.next {seen queue targets : List String} {name : String}
    (queued : IsQueued step seen (name :: queue)) (stepped : step name = .ok targets) :
    IsQueued step (unseen seen targets ++ seen) (queue ++ unseen seen targets) where
  waiting other member := by
    rcases List.mem_append.mp member with waits | fresh
    · exact List.mem_append_right _ (queued.waiting other (List.mem_cons_of_mem _ waits))
    · exact List.mem_append_left _ fresh
  settled other member gone target leads := by
    rw [List.mem_append, not_or] at gone
    have old : other ∈ seen := (List.mem_append.mp member).resolve_left gone.2
    rw [List.mem_append, mem_unseen]
    by_cases first : other = name
    · -- Whatever the first name leads to was among its targets.
      subst first
      obtain ⟨listed, again, target_listed⟩ := leads
      obtain rfl : targets = listed := Except.ok.inj (stepped.symm.trans again)
      by_cases known : target ∈ seen
      · exact .inr known
      · exact .inl ⟨target_listed, known⟩
    · have left : other ∉ name :: queue := by simp [first, gone.1]
      exact .inr (queued.settled other old left target leads)

/-- The names that are yet to be seen become fewer by those that are fresh. -/
theorem card_fresh {whole : Finset String} {seen fresh : List String} (different : fresh.Nodup)
    (new : ∀ name ∈ fresh, name ∈ whole ∧ name ∉ seen) :
    fresh.length + (whole \ (fresh ++ seen).toFinset).card = (whole \ seen.toFinset).card := by
  have unknown : fresh.toFinset ⊆ whole \ seen.toFinset := by
    intro name member
    obtain ⟨inside, absent⟩ := new name (List.mem_toFinset.mp member)
    exact Finset.mem_sdiff.mpr ⟨inside, fun old => absent (List.mem_toFinset.mp old)⟩
  have rest : whole \ (fresh ++ seen).toFinset = (whole \ seen.toFinset) \ fresh.toFinset := by
    ext name
    simp only [Finset.mem_sdiff, List.mem_toFinset, List.mem_append, not_or]
    tauto
  have count := Finset.card_sdiff_add_card_eq_card unknown
  have distinct := List.toFinset_card_of_nodup different
  rw [rest]
  omega

/-- With a turn for each name that waits or is yet to be seen, the queue finds just what was not
seen and is reached from it. -/
theorem queueBehind_total {whole : Finset String}
    (total : ∀ name, ∃ targets, step name = .ok targets)
    (inside : ∀ name target, StepsBy step name target → target ∈ whole) (turns : Nat) :
    ∀ seen queue, IsQueued step seen queue → queue.length + (whole \ seen.toFinset).card ≤ turns →
      ∃ found, queueBehind step turns seen queue = .ok found ∧
        ∀ name, name ∈ found ↔ name ∉ seen ∧
          ∃ start ∈ queue, ∃ length, Walk (StepsBy step) length start name := by
  -- A turn takes one name from the queue and counts the fresh ones from the unseen to the waiting.
  induction turns with
  | zero =>
    intro seen queue _ enough
    obtain rfl : queue = [] := List.length_eq_zero_iff.mp (by omega)
    exact ⟨[], rfl, by simp⟩
  | succ turns ih =>
    intro seen queue queued enough
    cases queue with
    | nil => exact ⟨[], rfl, by simp⟩
    | cons first queue =>
      obtain ⟨targets, stepped⟩ := total first
      have counted : (unseen seen targets).length +
          (whole \ (unseen seen targets ++ seen).toFinset).card =
          (whole \ seen.toFinset).card :=
        card_fresh (nodup_unseen seen targets) fun target member =>
          ⟨inside first target ⟨targets, stepped, (mem_unseen.mp member).1⟩,
            (mem_unseen.mp member).2⟩
      have fewer : (queue ++ unseen seen targets).length +
          (whole \ (unseen seen targets ++ seen).toFinset).card ≤ turns := by
        simp only [List.length_append, List.length_cons] at enough ⊢
        omega
      have next := queued.next stepped
      obtain ⟨more, sought, exactly⟩ := ih _ _ next fewer
      refine ⟨unseen seen targets ++ more, by simp [queueBehind, stepped, sought], fun name => ?_⟩
      rw [List.mem_append, exactly]
      constructor
      · rintro (fresh | ⟨unknown, start, waits, length, walk⟩)
        · -- A fresh name is one step away from the first one.
          obtain ⟨listed, unknown⟩ := mem_unseen.mp fresh
          exact ⟨unknown, first, List.mem_cons_self .., 1,
            .onward ⟨targets, stepped, listed⟩ (.here name)⟩
        · have unknown : name ∉ seen := fun old => unknown (List.mem_append_right _ old)
          rcases List.mem_append.mp waits with waits | fresh
          · exact ⟨unknown, start, List.mem_cons_of_mem _ waits, length, walk⟩
          · obtain ⟨listed, _⟩ := mem_unseen.mp fresh
            exact ⟨unknown, first, List.mem_cons_self .., length + 1,
              .onward ⟨targets, stepped, listed⟩ walk⟩
      · rintro ⟨unknown, start, waits, length, walk⟩
        by_cases fresh : name ∈ unseen seen targets
        · exact .inl fresh
        · -- What is still not seen is reached from what is in the queue now.
          have still : name ∉ unseen seen targets ++ seen := by simp [fresh, unknown]
          have old : start ∈ unseen seen targets ++ seen :=
            List.mem_append_right _ (queued.waiting start waits)
          exact .inr ⟨still, next.crosses walk old still⟩

/-- If steps lead to no more names than the bound, the queue finds from a name all others that are
reached from it. -/
theorem reachByQueue_total {whole : Finset String}
    (total : ∀ name, ∃ targets, step name = .ok targets)
    (inside : ∀ name target, StepsBy step name target → target ∈ whole) {bound : Nat}
    (few : whole.card ≤ bound) (start : String) :
    ∃ found, reachByQueue step bound start = .ok found ∧
      ∀ name, name ∈ found ↔ name ≠ start ∧ ∃ length, Walk (StepsBy step) length start name := by
  -- The name itself is seen and waits, and nothing was settled before.
  have queued : IsQueued step [start] [start] :=
    ⟨fun _ member => member, fun _ old gone => absurd old gone⟩
  have rest : (whole \ [start].toFinset).card ≤ whole.card :=
    Finset.card_le_card Finset.sdiff_subset
  have enough : [start].length + (whole \ [start].toFinset).card ≤ bound + 2 := by
    rw [List.length_singleton]
    omega
  obtain ⟨found, sought, exactly⟩ :=
    queueBehind_total total inside (bound + 2) [start] [start] queued enough
  exact ⟨found, sought, by simpa using exactly⟩

/-! ### Hierarchies -/

/-- The targets of all sources in all domains. -/
def EdgeIndex.allTargets (index : EdgeIndex) : List String :=
  index.flatMap fun (_, sources) => sources.flatMap fun (_, targets) => targets

namespace Hierarchy

variable {hierarchy : Hierarchy}

/-- What is kept was there. -/
theorem mem_of_keep {α : Type} {test : α → Except Error Bool} {items kept : List α}
    (keeps : keep test items = .ok kept) {item : α} (member : item ∈ kept) : item ∈ items := by
  induction items generalizing kept with
  | nil =>
    obtain rfl := Except.ok.inj keeps
    exact member
  | cons first rest ih =>
    obtain ⟨isKept, _, keeps⟩ := bind_eq_ok.mp keeps
    obtain ⟨more, keepsMore, keeps⟩ := bind_eq_ok.mp keeps
    obtain rfl := Except.ok.inj keeps
    -- Whether the first item is kept or not, the others are kept from the rest.
    cases isKept with
    | true =>
      rcases List.mem_cons.mp member with rfl | later
      · exact List.mem_cons_self ..
      · exact List.mem_cons_of_mem _ (ih keepsMore later)
    | false => exact List.mem_cons_of_mem _ (ih keepsMore member)

/-- Neighbours are targets of the index. -/
theorem mem_allTargets {index : EdgeIndex} {domain name target : String}
    (leads : StepsBy (hierarchy.neighbours index domain) name target) :
    target ∈ index.allTargets := by
  obtain ⟨targets, listed, member⟩ := leads
  obtain ⟨domains, keptDomains, listed⟩ := bind_eq_ok.mp listed
  obtain ⟨found, mapped, listed⟩ := bind_eq_ok.mp listed
  obtain rfl := Except.ok.inj listed
  -- The target comes from a source that was kept within a domain that was kept.
  obtain ⟨part, made, inPart⟩ := List.mem_flatten.mp (Text.mem_distinct.mp member)
  obtain ⟨table, keptTable, valued⟩ := mem_of_mapM_eq_ok mapped made
  obtain ⟨matching, keptSources, valued⟩ := bind_eq_ok.mp valued
  obtain rfl := Except.ok.inj valued
  obtain ⟨entry, keptEntry, isTarget⟩ := List.mem_flatMap.mp inPart
  exact List.mem_flatMap.mpr ⟨table, mem_of_keep keptDomains keptTable,
    List.mem_flatMap.mpr ⟨entry, mem_of_keep keptSources keptEntry, isTarget⟩⟩

/-- With total tests a queue finds in an index all names that some walk leads to from a name, but
for the name itself. There is no limit to the steps. -/
theorem reach_total (total : hierarchy.IsTotal) (index : EdgeIndex) (name domain : String) :
    ∃ found, reachByQueue (hierarchy.neighbours index domain) index.size name = .ok found ∧
      ∀ other, other ∈ found ↔
        other ≠ name ∧ ∃ length, Walk (StepsBy (hierarchy.neighbours index domain)) length
          name other := by
  -- There are no more such names than targets in the index, so the turns of the queue are enough.
  have answers : ∀ member, ∃ targets, hierarchy.neighbours index domain member = .ok targets :=
    fun member => (neighbours_total total index domain member).imp fun _ => And.left
  have inside : ∀ member target, StepsBy (hierarchy.neighbours index domain) member target →
      target ∈ index.allTargets.toFinset :=
    fun _ _ leads => List.mem_toFinset.mpr (mem_allTargets leads)
  exact reachByQueue_total answers inside (List.toFinset_card_le _) name

/-- With total tests all groups of a name are listed: those that some walk leads to, but for the
name itself. -/
theorem implicitRoles_total (total : hierarchy.IsTotal) (name domain : String) :
    ∃ groups, hierarchy.implicitRoles name domain = .ok groups ∧
      ∀ group, group ∈ groups ↔
        group ≠ name ∧ ∃ length, Walk (hierarchy.Steps domain) length name group :=
  reach_total total hierarchy.graph.roles name domain

/-- With total tests all members of a name are listed: those that some walk leads to, but for the
name itself. -/
theorem implicitUsers_total (total : hierarchy.IsTotal) (name domain : String) :
    ∃ members, hierarchy.implicitUsers name domain = .ok members ∧
      ∀ member, member ∈ members ↔ member ≠ name ∧
        ∃ length, Walk (StepsBy (hierarchy.users · domain)) length name member :=
  reach_total total hierarchy.graph.users name domain

end Hierarchy

end AccessControl
