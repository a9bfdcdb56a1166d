import AccessControl.Journal

/-! Results of computations, logged or not, follow from the results of their parts. -/

namespace AccessControl

variable {α β fault : Type}

/-- A value is passed on to what follows it. -/
@[simp] theorem ok_bind (a : α) (next : α → Except fault β) : (Except.ok a >>= next) = next a := rfl

/-- Nothing follows an error. -/
@[simp] theorem error_bind (e : fault) (next : α → Except fault β) :
    ((Except.error e : Except fault α) >>= next) = .error e := rfl

/-- A sequence has a value exactly when its first part has one from which the second part has it. -/
theorem bind_eq_ok {first : Except fault α} {next : α → Except fault β} {b : β} :
    (first >>= next) = .ok b ↔ ∃ a, first = .ok a ∧ next a = .ok b := by
  cases first <;> simp

/-- A sequence fails exactly when its first part does, or the second part from a value of the
first. -/
theorem bind_eq_error {first : Except fault α} {next : α → Except fault β} {e : fault} :
    (first >>= next) = .error e ↔ first = .error e ∨ ∃ a, first = .ok a ∧ next a = .error e := by
  cases first <;> simp

/-- An error for a list is one of a member. -/
theorem mapM_eq_error {next : α → Except fault β} {list : List α} {e : fault}
    (failed : list.mapM next = .error e) : ∃ a ∈ list, next a = .error e := by
  induction list with
  | nil => cases failed
  | cons a rest ih =>
    rw [List.mapM_cons, bind_eq_error] at failed
    rcases failed with first | ⟨b, _, failed⟩
    · -- The first member has the error.
      exact ⟨a, List.mem_cons_self .., first⟩
    -- What follows the rest only puts the values together.
    rcases bind_eq_error.mp failed with later | ⟨more, _, failed⟩
    · -- One of the others has it.
      obtain ⟨other, member, failed⟩ := ih later
      exact ⟨other, List.mem_cons_of_mem _ member, failed⟩
    · cases failed

/-- Computations that agree on the members of a list agree on the list. -/
theorem mapM_congr {next other : α → Except fault β} {list : List α}
    (same : ∀ a ∈ list, next a = other a) : list.mapM next = list.mapM other := by
  induction list with
  | nil => rfl
  | cons a rest ih =>
    rw [List.mapM_cons, List.mapM_cons, same a (List.mem_cons_self ..),
      ih fun b member => same b (List.mem_cons_of_mem _ member)]

/-- A value for a list begins with one for its first member and goes on with one for the others. -/
theorem mapM_cons_eq_ok {next : α → Except fault β} {a : α} {rest : List α} {results : List β} :
    (a :: rest).mapM next = .ok results ↔
      ∃ first more, next a = .ok first ∧ rest.mapM next = .ok more ∧ first :: more = results := by
  rw [List.mapM_cons, bind_eq_ok]
  constructor
  · -- The value of a list is put together from those of its parts.
    rintro ⟨first, valued, made⟩
    obtain ⟨more, later, made⟩ := bind_eq_ok.mp made
    exact ⟨first, more, valued, later, Except.ok.inj made⟩
  · -- And from the parts it is put together in the same way.
    rintro ⟨first, more, valued, later, rfl⟩
    exact ⟨first, valued, bind_eq_ok.mpr ⟨more, later, rfl⟩⟩

/-- A list has a value exactly if all its members have one. -/
theorem exists_mapM_eq_ok {next : α → Except fault β} {list : List α} :
    (∃ results, list.mapM next = .ok results) ↔ ∀ a ∈ list, ∃ b, next a = .ok b := by
  induction list with
  | nil => exact ⟨fun _ => by simp, fun _ => ⟨[], rfl⟩⟩
  | cons a rest ih =>
    rw [List.forall_mem_cons, ← ih]
    constructor
    · -- The parts of a value are there.
      rintro ⟨results, made⟩
      obtain ⟨first, more, valued, later, _⟩ := mapM_cons_eq_ok.mp made
      exact ⟨⟨first, valued⟩, more, later⟩
    · -- A value is put together from its parts.
      rintro ⟨⟨first, valued⟩, more, later⟩
      exact ⟨first :: more, mapM_cons_eq_ok.mpr ⟨first, more, valued, later, rfl⟩⟩

/-- A value for a list holds nothing but values of its members. -/
theorem mem_of_mapM_eq_ok {next : α → Except fault β} {list : List α} {results : List β} {b : β}
    (made : list.mapM next = .ok results) (member : b ∈ results) : ∃ a ∈ list, next a = .ok b := by
  induction list generalizing results with
  | nil =>
    cases made
    cases member
  | cons a rest ih =>
    obtain ⟨first, more, valued, later, rfl⟩ := mapM_cons_eq_ok.mp made
    rcases List.mem_cons.mp member with rfl | member
    · -- It is the value of the first member.
      exact ⟨a, List.mem_cons_self .., valued⟩
    · -- It is a value of one of the others.
      obtain ⟨other, listed, valued⟩ := ih later member
      exact ⟨other, List.mem_cons_of_mem _ listed, valued⟩

/-- A value for a list holds as many values as the list has members. -/
theorem length_of_mapM_eq_ok {next : α → Except fault β} {list : List α} {results : List β}
    (made : list.mapM next = .ok results) : results.length = list.length := by
  induction list generalizing results with
  | nil =>
    cases made
    rfl
  | cons a rest ih =>
    obtain ⟨first, more, _, later, rfl⟩ := mapM_cons_eq_ok.mp made
    rw [List.length_cons, List.length_cons, ih later]

/-- An error on the way along a list is one of a step. -/
theorem foldlM_eq_error {step : α → β → Except fault α} {list : List β} {a : α} {e : fault}
    (failed : list.foldlM step a = .error e) : ∃ a b, step a b = .error e := by
  induction list generalizing a with
  | nil => cases failed
  | cons b rest ih =>
    rw [List.foldlM_cons, bind_eq_error] at failed
    rcases failed with first | ⟨next, _, later⟩
    · -- The first step fails.
      exact ⟨a, b, first⟩
    · -- The first step is done, and one of the others fails.
      exact ih later

/-- What is made of a value is the result exactly if there is a value of which it is made. -/
theorem map_eq_ok {result : Except fault α} {next : α → β} {b : β} :
    result.map next = .ok b ↔ ∃ a, result = .ok a ∧ next a = b := by
  cases result <;> simp [Except.map]

/-- What is made of a value fails exactly if there is no value. -/
theorem map_eq_error {result : Except fault α} {next : α → β} {e : fault} :
    result.map next = .error e ↔ result = .error e := by
  cases result <;> simp [Except.map]

/-- The first part of a result is that of a pair that is the result. -/
theorem map_fst_eq_ok {result : Except fault (α × β)} {a : α} :
    result.map (·.1) = .ok a ↔ ∃ b, result = .ok (a, b) := by
  cases result <;> simp [Except.map, Prod.ext_iff]

/-- What is made of a result is there exactly if there is a result of which it is made. -/
theorem toOption_map_eq_some {result : Except fault α} {next : α → β} {b : β} :
    result.toOption.map next = some b ↔ ∃ a, result = .ok a ∧ next a = b := by
  cases result <;> simp [Except.toOption]

/-- A result is there exactly if it is the value. -/
theorem toOption_eq_some {result : Except fault α} {a : α} :
    result.toOption = some a ↔ result = .ok a := by
  cases result <;> simp [Except.toOption]

/-- A value alone is a result. -/
@[simp] theorem pure_eq_ok (a : α) : (Pure.pure a : Except fault α) = .ok a := rfl

/-- What is thrown is an error. -/
@[simp] theorem throw_eq_error (e : fault) : (throw e : Except fault α) = .error e := rfl

/-- A result that is looked at changes no state. -/
theorem run_ofExcept {state : Type} (result : Except fault α) (s : state) :
    (ofExcept result : EStateM fault state α).run s =
      match result with
      | .ok a => .ok a s
      | .error e => .error e s := by
  cases result <;> rfl

namespace Logged

/-- The result of a sequence is the sequence of results. -/
@[simp] theorem result_bind (first : Logged α) (next : α → Logged β) :
    (first >>= next).result = first.result >>= fun a => (next a).result := by
  -- Both sides pass an error on and continue from a value.
  show (Logged.bind first next).result = _
  unfold Logged.bind
  cases first.result <;> rfl

/-- The result of a value is the value. -/
@[simp] theorem result_pure (a : α) : (Pure.pure a : Logged α).result = .ok a := rfl

/-- The result of a value without records is the value. -/
@[simp] theorem result_value (a : α) : (Logged.pure a).result = .ok a := rfl

/-- The result of an error is the error. -/
@[simp] theorem result_fail (e : Error) : (Logged.fail e : Logged α).result = .error e := rfl

/-- The result of a result without records is itself. -/
@[simp] theorem result_ofExcept (result : Except Error α) :
    (Logged.ofExcept result).result = result :=
  rfl

/-- Records alone do not fail. -/
@[simp] theorem result_note (records : List Record) : (Logged.note records).result = .ok () := rfl

/-- A logged sequence has a value exactly when its first part has one from which the second has
it. -/
theorem bind_ok {first : Logged α} {next : α → Logged β} {b : β} :
    (first >>= next).result = .ok b ↔ ∃ a, first.result = .ok a ∧ (next a).result = .ok b := by
  rw [result_bind, bind_eq_ok]

end Logged

end AccessControl
