import AccessControl.Matcher.Cache
import AccessControl.Proofs.Journal
import Mathlib.Data.List.Dedup
import Mathlib.Data.List.DropRight

/-! A cache of matchers answers as reading does, and it holds the texts of matchers that were used
last. -/

namespace AccessControl

/-! ### The last of the different items -/

/-- The last items are those of the end, if that has as many. -/
theorem rtake_append_of_le {α : Type} {front back : List α} {count : Nat}
    (enough : count ≤ back.length) : (front ++ back).rtake count = back.rtake count := by
  have skipped : (front ++ back).length - count = front.length + (back.length - count) := by
    simp only [List.length_append]
    omega
  rw [List.rtake, skipped, List.drop_append, List.rtake]
  simp

section

variable {α : Type} [DecidableEq α]

/-- One more use of an item moves it behind all others. -/
theorem dedup_concat (items : List α) (item : α) :
    (items ++ [item]).dedup = items.dedup.filter (· != item) ++ [item] := by
  induction items with
  | nil => rfl
  | cons first rest ih =>
    rw [List.cons_append]
    by_cases again : first ∈ rest
    · -- The first item counts where it is used again.
      rw [List.dedup_cons_of_mem (List.mem_append_left _ again), List.dedup_cons_of_mem again, ih]
    · -- The first item is the one that is used now.
      by_cases same : first = item
      · subst same
        rw [List.dedup_cons_of_mem (by simp), List.dedup_cons_of_notMem again, ih]
        simp
      · -- The first item is used neither again nor now.
        rw [List.dedup_cons_of_notMem (by simp [again, same]), List.dedup_cons_of_notMem again, ih]
        simp [same]

/-- Of items that are all different at most one is left out with an item. -/
theorem length_le_filter_ne {items : List α} (distinct : items.Nodup) (item : α) :
    items.length ≤ (items.filter (· != item)).length + 1 := by
  rw [← distinct.erase_eq_filter, List.length_erase]
  split <;> omega

/-- Whether an item is left out of all items or of the last ones alone, the last ones but one are
the same behind it. -/
theorem rtake_filter_ne {items : List α} (distinct : items.Nodup) (item : α) (count : Nat) :
    ((items.rtake (count + 1)).filter (· != item)).rtake count =
      (items.filter (· != item)).rtake count := by
  by_cases short : items.length ≤ count + 1
  · -- All items are among the last ones.
    have whole : items.rtake (count + 1) = items := by
      rw [List.rtake, Nat.sub_eq_zero_of_le short, List.drop_zero]
    rw [whole]
  · -- There are more items, and the last ones are not all.
    have split : items = items.take (items.length - (count + 1)) ++ items.rtake (count + 1) :=
      (List.take_append_drop ..).symm
    -- Of the last ones one at most is left out.
    have enough : count ≤ ((items.rtake (count + 1)).filter (· != item)).length := by
      have counted : (items.rtake (count + 1)).length = count + 1 := by
        rw [List.rtake, List.length_drop]
        omega
      have kept := length_le_filter_ne (distinct.sublist (List.drop_sublist _ items) :
        (items.rtake (count + 1)).Nodup) item
      omega
    conv_rhs => rw [split, List.filter_append]
    rw [rtake_append_of_le enough]

end

namespace MatcherCache

/-- The text is one of a matcher. -/
def compiles (source : String) : Bool := (Matcher.read source).isOk

/-- The last texts of matchers among the given ones, so many at most, each in the place of its last
use. -/
def lastUsed (limit : Nat) (sources : List String) : List String :=
  (sources.filter compiles).dedup.rtake limit

/-- What a call answers. -/
def answer (cache : MatcherCache) (source : String) : Except Error Matcher :=
  (cache.compile source).map (·.2.matcher)

/-- The cache after a call; a call that fails leaves it as it was. -/
def after (cache : MatcherCache) (source : String) : MatcherCache :=
  match cache.compile source with
  | .ok (next, _) => next
  | .error _ => cache

/-- The cache after calls in a row. -/
def run (cache : MatcherCache) (sources : List String) : MatcherCache :=
  sources.foldl after cache

/-- What calls in a row answer. -/
def answers (cache : MatcherCache) : List String → List (Except Error Matcher)
  | [] => []
  | source :: rest => cache.answer source :: (cache.after source).answers rest

/-- The cache holds the texts of matchers that were used last, and with each of them what it
reads. -/
structure Recalls (cache : MatcherCache) (sources : List String) : Prop where
  positive : 1 ≤ cache.limit
  held : cache.entries.map (·.source) = lastUsed cache.limit sources
  read : ∀ entry ∈ cache.entries, Matcher.read entry.source = .ok entry.matcher

variable {cache : MatcherCache} {sources : List String} {source : String}

/-- The entry that is found is one of the text. -/
theorem mem_of_find? {entry : CachedMatcher} (found : cache.find? source = some entry) :
    entry ∈ cache.entries ∧ entry.source = source :=
  ⟨List.mem_of_find?_eq_some found, by simpa using List.find?_some found⟩

/-- The text of a matcher that is used moves behind all others, of which only the last ones stay. -/
theorem lastUsed_concat {limit : Nat} (positive : 1 ≤ limit) (reads : compiles source = true) :
    lastUsed limit (sources ++ [source]) =
      ((lastUsed limit sources).filter (· != source) ++ [source]).rtake limit := by
  obtain ⟨others, rfl⟩ : ∃ others, limit = others + 1 := ⟨limit - 1, by omega⟩
  have used : (sources ++ [source]).filter compiles = sources.filter compiles ++ [source] := by
    simp [reads]
  rw [lastUsed, used, dedup_concat, List.rtake_concat_succ, List.rtake_concat_succ, lastUsed,
    rtake_filter_ne (List.nodup_dedup _)]

/-- A text that is none of a matcher is no use of one. -/
theorem lastUsed_concat_of_not {limit : Nat} (fails : compiles source = false) :
    lastUsed limit (sources ++ [source]) = lastUsed limit sources := by
  simp [lastUsed, fails]

/-- The use of an entry with what its text reads makes it the last one. -/
theorem Recalls.use (recalls : cache.Recalls sources) (entry : CachedMatcher)
    (reads : Matcher.read entry.source = .ok entry.matcher) (readings : Nat) :
    (cache.use entry readings).Recalls (sources ++ [entry.source]) where
  positive := recalls.positive
  held := by
    have compiled : compiles entry.source = true := by
      simp [compiles, reads, Except.isOk, Except.toBool]
    have others : (cache.others entry.source).map (·.source) =
        (cache.entries.map (·.source)).filter (· != entry.source) := by
      rw [List.filter_map]
      rfl
    -- What gives way is at the front of the entries as it is at the front of their texts.
    have limit : (cache.use entry readings).limit = cache.limit := rfl
    rw [limit, lastUsed_concat recalls.positive compiled, ← recalls.held, ← others]
    simp [MatcherCache.use, List.rtake, List.map_drop]
  read other member := by
    have listed := List.mem_of_mem_drop member
    rcases List.mem_append.mp listed with before | last
    · -- An entry from before has been read.
      exact recalls.read other (List.mem_of_mem_filter before)
    · -- The new entry has been read now.
      rw [List.mem_singleton.mp last, reads]

/-- A call answers what its text reads, whether the cache has that or not, and the cache goes on to
hold the texts that were used last. -/
theorem Recalls.call (recalls : cache.Recalls sources) (source : String) :
    cache.answer source = Matcher.read source ∧ (cache.after source).Recalls (sources ++ [source]) ∧
      (cache.after source).limit = cache.limit := by
  cases found : cache.find? source with
  | some entry =>
    -- A hit moves the entry and reads nothing.
    obtain ⟨listed, rfl⟩ := mem_of_find? found
    have compiled : cache.compile entry.source = .ok (cache.use entry cache.readings, entry) := by
      simp only [compile, found]
    have reads := recalls.read entry listed
    simp only [answer, after, compiled, reads]
    exact ⟨rfl, recalls.use entry reads _, rfl⟩
  | none =>
    -- The text is not among the entries.
    cases reads : Matcher.read source with
    -- It is read, and held.
    | ok matcher =>
      have compiled : cache.compile source = .ok (cache.use ⟨source, matcher, cache.readings⟩
          (cache.readings + 1), ⟨source, matcher, cache.readings⟩) := by
        simp only [compile, found, reads, ok_bind, pure_eq_ok]
      simp only [answer, after, compiled]
      exact ⟨rfl, recalls.use ⟨source, matcher, cache.readings⟩ reads _, rfl⟩
    | error error =>
      -- A call that fails is none that counts.
      have failed : cache.compile source = .error error := by
        simp only [compile, found, reads, error_bind]
      have fails : compiles source = false := by simp [compiles, reads, Except.isOk, Except.toBool]
      simp only [answer, after, failed]
      exact ⟨rfl, ⟨recalls.positive, recalls.held.trans (lastUsed_concat_of_not fails).symm,
        recalls.read⟩, trivial⟩

/-- Calls in a row answer what their texts read, and leave a cache of the texts that were used
last. -/
theorem Recalls.run (recalls : cache.Recalls sources) (calls : List String) :
    cache.answers calls = calls.map Matcher.read ∧ (cache.run calls).Recalls (sources ++ calls) ∧
      (cache.run calls).limit = cache.limit := by
  induction calls generalizing cache sources with
  | nil => exact ⟨rfl, by simpa [MatcherCache.run] using recalls, rfl⟩
  | cons call rest ih =>
    obtain ⟨answered, next, limit⟩ := recalls.call call
    obtain ⟨answers, last, kept⟩ := ih next
    refine ⟨by simp [MatcherCache.answers, answered, answers], ?_, kept.trans limit⟩
    simpa [MatcherCache.run] using last

/-- A cache starts with nothing that was used. -/
theorem recalls_of_create {limit : Int} (created : create limit = .ok cache) :
    cache.Recalls [] ∧ cache.limit = limit.toNat := by
  simp only [create] at created
  split at created
  · -- A limit that is too small is refused.
    cases created
  · -- Nothing is held yet.
    obtain rfl := Except.ok.inj created
    refine ⟨⟨?_, by simp [lastUsed, List.rtake], by simp⟩, rfl⟩
    show 1 ≤ limit.toNat
    omega

end MatcherCache

end AccessControl
