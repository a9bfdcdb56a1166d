import AccessControl.Proofs.Value.Keys
import AccessControl.Role.Roster

/-! Rosters keep each grouping type at a manager of its own, whatever happens to the others. -/

namespace AccessControl

namespace Roster

/-- Every grouping type is listed once and has a manager that no other grouping type has. -/
structure IsSeated (roster : Roster) : Prop where
  listed : (roster.seats.map (·.1)).Nodup
  inside : ∀ gtype number, lookupKey gtype roster.seats = some number → number < roster.held.length
  apart : ∀ gtype other number, lookupKey gtype roster.seats = some number →
    lookupKey other roster.seats = some number → gtype = other

variable {roster : Roster}

/-- The roster without managers is seated. -/
theorem empty_isSeated : empty.IsSeated where
  listed := by simp [empty]
  inside := by simp [empty]
  apart := by simp [empty]

/-- Nobody is found in the roster without managers. -/
@[simp] theorem find?_empty (gtype : String) : empty.find? gtype = none := rfl

/-- A seated grouping type has the manager that holds its number. -/
theorem IsSeated.find?_eq_some (seated : roster.IsSeated) {gtype : String} {number : Nat}
    (seat : lookupKey gtype roster.seats = some number) :
    ∃ manager, roster.held[number]? = some manager ∧ roster.find? gtype = some manager := by
  have held := List.getElem?_eq_getElem (seated.inside gtype number seat)
  exact ⟨_, held, by simp [find?, seat, held]⟩

/-- A grouping type with a manager has a number, which the manager holds. -/
theorem seat_of_find? {gtype : String} {manager : RoleManager}
    (found : roster.find? gtype = some manager) :
    ∃ number, lookupKey gtype roster.seats = some number ∧ roster.held[number]? = some manager :=
  Option.bind_eq_some_iff.mp found

/-! ### New managers -/

/-- A new manager is found under its grouping type, and all others where they were. -/
theorem find?_install (seated : roster.IsSeated) (gtype other : String) (manager : RoleManager) :
    (roster.install gtype manager).find? other =
      if other = gtype then some manager else roster.find? other := by
  by_cases same : other = gtype
  · -- The number of the new manager is the place behind all that are held.
    simp [install, find?, same]
  · -- The other types keep their seats.
    cases seat : lookupKey other roster.seats with
    | none => simp [install, find?, lookupKey_insertKey_of_ne same, same, seat]
    | some number =>
      -- The numbers in use are those of managers before the new one.
      have within := seated.inside other number seat
      simp [install, find?, lookupKey_insertKey_of_ne same, same, seat,
        List.getElem?_append_left within]

/-- A number that no other grouping type has can be given to a grouping type. -/
theorem IsSeated.take (seated : roster.IsSeated) {held : List RoleManager} {gtype : String}
    {number : Nat} (grown : roster.held.length ≤ held.length) (within : number < held.length)
    (own : ∀ other, lookupKey other roster.seats = some number → other = gtype) :
    IsSeated ⟨held, insertKey gtype number roster.seats⟩ where
  listed := nodup_keys_insertKey seated.listed
  inside other place taken := by
    simp only [lookupKey_insertKey] at taken
    -- The seat of the given type is the given number, and the other seats are former ones.
    split at taken
    · -- The new seat is within the managers.
      exact Option.some.inj taken ▸ within
    · -- So are the former ones, as none has been taken away.
      exact Nat.lt_of_lt_of_le (seated.inside other place taken) grown
  apart first second place taken otherTaken := by
    simp only [lookupKey_insertKey] at taken otherTaken
    -- A type with the given number is the given one, and all others have their numbers as before.
    split at taken <;> split at otherTaken
    · -- Both are the given type.
      rename_i isFirst isSecond
      exact isFirst.trans isSecond.symm
    · -- The second type has had this number before.
      rename_i isFirst _
      obtain rfl := Option.some.inj taken
      exact isFirst.trans (own second otherTaken).symm
    · -- The first type has had it.
      rename_i _ isSecond
      obtain rfl := Option.some.inj otherTaken
      exact (own first taken).trans isSecond.symm
    · -- Both have had their numbers before.
      exact seated.apart first second place taken otherTaken

/-- A new manager has a number that no other grouping type has. -/
theorem install_isSeated (seated : roster.IsSeated) (gtype : String) (manager : RoleManager) :
    (roster.install gtype manager).IsSeated := by
  refine seated.take (by simp) (by simp) fun other taken => ?_
  -- The numbers in use are below the new one.
  exact absurd (seated.inside other _ taken) (Nat.lt_irrefl _)

/-! ### Changes to managers -/

/-- A change to a manager moves no grouping type. -/
@[simp] theorem modify_seats (gtype : String) (change : RoleManager → RoleManager) :
    (roster.modify gtype change).seats = roster.seats := by
  unfold modify
  split <;> rfl

/-- A change to a manager adds none. -/
@[simp] theorem modify_length (gtype : String) (change : RoleManager → RoleManager) :
    (roster.modify gtype change).held.length = roster.held.length := by
  unfold modify
  split <;> simp

/-- A roster with the seats and the size of a seated one is seated. -/
theorem IsSeated.congr (seated : roster.IsSeated) {other : Roster}
    (seats : other.seats = roster.seats)
    (size : other.held.length = roster.held.length) : other.IsSeated where
  listed := seats ▸ seated.listed
  inside := seats ▸ size ▸ seated.inside
  apart := seats ▸ seated.apart

/-- A change to the manager of a grouping type is found there and nowhere else. -/
theorem find?_modify (seated : roster.IsSeated) (gtype other : String)
    (change : RoleManager → RoleManager) :
    (roster.modify gtype change).find? other =
      if other = gtype then (roster.find? other).map change else roster.find? other := by
  cases seat : lookupKey gtype roster.seats with
  | none =>
    -- Without a manager nothing changes.
    by_cases same : other = gtype
    · simp [modify, find?, same, seat]
    · simp [modify, same, seat]
  | some number =>
    by_cases same : other = gtype
    · simp [modify, find?, same, seat]
    · cases otherSeat : lookupKey other roster.seats with
      | none =>
        -- The other type has no manager that could be the changed one.
        simp [modify, find?, same, seat, otherSeat]
      | some place =>
        -- No two grouping types have one number, so the change is made elsewhere.
        have elsewhere : number ≠ place := fun equal =>
          same (seated.apart other gtype place otherSeat (equal ▸ seat))
        simp [modify, find?, same, seat, otherSeat, List.getElem?_modify, elsewhere]

/-- Changes to managers move no grouping type. -/
@[simp] theorem modifyEach_seats (change : String → RoleManager → RoleManager)
    (gtypes : List String) : (modifyEach change gtypes roster).seats = roster.seats := by
  induction gtypes generalizing roster with
  | nil => rfl
  | cons gtype rest ih => simp [modifyEach, ih]

/-- Changes to managers add none. -/
@[simp] theorem modifyEach_length (change : String → RoleManager → RoleManager)
    (gtypes : List String) : (modifyEach change gtypes roster).held.length =
      roster.held.length := by
  induction gtypes generalizing roster with
  | nil => rfl
  | cons gtype rest ih => simp [modifyEach, ih]

/-- Changes to the managers of different grouping types are found at each of these once. -/
theorem find?_modifyEach (change : String → RoleManager → RoleManager) {gtypes : List String}
    (distinct : gtypes.Nodup) (seated : roster.IsSeated) (gtype : String) :
    (modifyEach change gtypes roster).find? gtype =
      if gtype ∈ gtypes then (roster.find? gtype).map (change gtype) else roster.find? gtype := by
  induction gtypes generalizing roster with
  | nil => simp [modifyEach]
  | cons first rest ih =>
    -- The first change is not repeated, and the roster is still seated after it.
    obtain ⟨fresh, others⟩ := List.nodup_cons.mp distinct
    have after : (roster.modify first (change first)).IsSeated := seated.congr (by simp) (by simp)
    by_cases same : gtype = first
    · subst same
      simp [modifyEach, ih others after, find?_modify seated, fresh]
    · simp [modifyEach, ih others after, find?_modify seated, same]

/-- Changes to the managers of all grouping types are found at each of them. -/
theorem find?_modifyAll (seated : roster.IsSeated) (change : String → RoleManager → RoleManager)
    (gtype : String) :
    (roster.modifyAll change).find? gtype = (roster.find? gtype).map (change gtype) := by
  rw [modifyAll, find?_modifyEach change seated.listed seated]
  -- The changes are made at the listed types, which are those with a manager.
  split
  · rfl
  · -- A type that is not listed has no manager, neither before nor after.
    rename_i unlisted
    rw [← lookupKey_isSome, Option.not_isSome_iff_eq_none] at unlisted
    simp [find?, unlisted]

/-! ### Managers without their links -/

/-- The roster with all links left out. -/
def bare (roster : Roster) : Roster :=
  ⟨roster.held.map RoleManager.clear, roster.seats⟩

/-- Without links a grouping type has its manager without links. -/
theorem find?_bare (gtype : String) :
    roster.bare.find? gtype = (roster.find? gtype).map RoleManager.clear := by
  cases seat : lookupKey gtype roster.seats <;> simp [bare, find?, seat]

/-- Rosters that differ in links alone are seated together. -/
theorem IsSeated.of_bare {other : Roster} (seated : roster.IsSeated)
    (same : other.bare = roster.bare) : other.IsSeated := by
  obtain ⟨held, seats⟩ := Roster.mk.inj same
  exact seated.congr seats (by simpa using congrArg List.length held)

/-- A change to the links of a manager leaves the rest of a roster. -/
theorem modify_bare {gtype : String} {change : RoleManager → RoleManager}
    (links : ∀ manager, (change manager).clear = manager.clear) :
    (roster.modify gtype change).bare = roster.bare := by
  unfold modify
  split
  · -- At every place there is the same manager but for the links.
    simp only [bare, Roster.mk.injEq, and_true]
    refine List.ext_getElem? fun place => ?_
    simp only [List.getElem?_map, List.getElem?_modify]
    split <;> simp [links, Function.comp_def]
  · rfl

/-- Changes to the links of managers leave the rest of a roster. -/
theorem modifyAll_bare {change : String → RoleManager → RoleManager}
    (links : ∀ gtype manager, (change gtype manager).clear = manager.clear) :
    (roster.modifyAll change).bare = roster.bare := by
  unfold modifyAll
  -- The changes are made one after the other, for whatever list of grouping types.
  generalize roster.seats.map (·.1) = gtypes
  induction gtypes generalizing roster with
  | nil => rfl
  | cons gtype rest ih => rw [modifyEach, ih, modify_bare (links gtype)]

/-! ### Places for other grouping types -/

/-- A roster goes on from an earlier one: it holds the managers of that one under their numbers, and
each of them has a seat at most where it had one. -/
structure GoesOn (earlier roster : Roster) : Prop where
  seated : roster.IsSeated
  held : ∃ more, roster.held = earlier.held ++ more
  seats : ∀ gtype number, lookupKey gtype roster.seats = some number →
    number < earlier.held.length → lookupKey gtype earlier.seats = some number

variable {earlier : Roster}

/-- A seat of the earlier roster can be taken again. -/
theorem GoesOn.resume (onward : GoesOn earlier roster) (wasSeated : earlier.IsSeated)
    {gtype : String} {number : Nat} (seat : lookupKey gtype earlier.seats = some number) :
    GoesOn earlier { roster with seats := insertKey gtype number roster.seats } := by
  have within := wasSeated.inside gtype number seat
  obtain ⟨more, held⟩ := onward.held
  refine ⟨onward.seated.take (Nat.le_refl _) ?_ fun other taken => ?_, ⟨more, held⟩,
    fun other place taken below => ?_⟩
  · -- The number of the former seat is still that of a manager.
    simp only [held, List.length_append]
    omega
  · -- A manager of the earlier roster has no seat but its former one.
    exact wasSeated.apart other gtype number (onward.seats other number taken within) seat
  · simp only [lookupKey_insertKey] at taken
    split at taken
    · -- The type that is seated again has its former number.
      simp_all
    · exact onward.seats other place taken below

/-- A grouping type that takes its seat again has the manager it had. -/
theorem GoesOn.find?_resume (onward : GoesOn earlier roster) (wasSeated : earlier.IsSeated)
    {gtype : String} {number : Nat} (seat : lookupKey gtype earlier.seats = some number)
    (other : String) :
    find? { roster with seats := insertKey gtype number roster.seats } other =
      if other = gtype then earlier.find? other else roster.find? other := by
  have within := wasSeated.inside gtype number seat
  obtain ⟨more, held⟩ := onward.held
  -- The managers held since then came behind those of the earlier roster.
  by_cases same : other = gtype
  · simp [find?, same, seat, held, List.getElem?_append_left within]
  · simp [find?, same, lookupKey_insertKey_of_ne same]

/-- A new manager goes on from the earlier roster, where it has no number. -/
theorem GoesOn.install (onward : GoesOn earlier roster) (gtype : String) (manager : RoleManager) :
    GoesOn earlier (roster.install gtype manager) := by
  obtain ⟨more, held⟩ := onward.held
  refine ⟨install_isSeated onward.seated gtype manager, ⟨more ++ [manager], ?_⟩,
    fun other place taken below => ?_⟩
  · simp [Roster.install, held]
  · simp only [Roster.install, lookupKey_insertKey] at taken
    split at taken
    · -- The number of the new manager is past those of the earlier roster.
      obtain rfl := Option.some.inj taken
      simp only [held, List.length_append] at below
      omega
    · -- Any other type has the number it had.
      exact onward.seats other place taken below

/-- Taking places goes on from the earlier roster, and each type has its former manager or a new
one. -/
theorem seat_goesOn (wasSeated : earlier.IsSeated) (new : RoleManager) (gtypes : List String)
    (onward : GoesOn earlier roster) :
    GoesOn earlier (seat earlier.seats new gtypes roster) ∧
      ∀ gtype, (seat earlier.seats new gtypes roster).find? gtype =
        if gtype ∈ gtypes then some ((earlier.find? gtype).getD new) else roster.find? gtype := by
  induction gtypes generalizing roster with
  | nil => exact ⟨onward, by simp [seat]⟩
  | cons first rest ih =>
    cases place : lookupKey first earlier.seats with
    | some number =>
      -- The type had a manager and keeps it.
      obtain ⟨goes, finds⟩ := ih (onward.resume wasSeated place)
      obtain ⟨manager, _, found⟩ := wasSeated.find?_eq_some place
      refine ⟨by simpa [seat, place] using goes, fun gtype => ?_⟩
      simp only [seat, place, finds, onward.find?_resume wasSeated place]
      by_cases same : gtype = first <;> simp [same, found]
    | none =>
      -- The type had no manager and gets a new one, even if it is listed twice.
      obtain ⟨goes, finds⟩ := ih (onward.install first new)
      have absent : earlier.find? first = none := by simp [find?, place]
      refine ⟨by simpa [seat, place] using goes, fun gtype => ?_⟩
      simp only [seat, place, finds, find?_install onward.seated]
      by_cases same : gtype = first <;> simp [same, absent]

/-- The roster of given types alone goes on from the roster before it. -/
theorem goesOn_start (earlier : Roster) : GoesOn earlier ⟨earlier.held, []⟩ where
  seated := ⟨by simp, by simp, by simp⟩
  held := ⟨[], by simp⟩
  seats := by simp

/-- The roster of given types alone is seated. -/
theorem reseat_isSeated (seated : roster.IsSeated) (gtypes : List String) (new : RoleManager) :
    (roster.reseat gtypes new).IsSeated :=
  (seat_goesOn seated new gtypes (goesOn_start roster)).1.seated

/-- The given types alone have managers, those that they had or new ones. -/
theorem find?_reseat (seated : roster.IsSeated) (gtypes : List String) (new : RoleManager)
    (gtype : String) :
    (roster.reseat gtypes new).find? gtype =
      if gtype ∈ gtypes then some ((roster.find? gtype).getD new) else none :=
  (seat_goesOn seated new gtypes (goesOn_start roster)).2 gtype

end Roster

end AccessControl
