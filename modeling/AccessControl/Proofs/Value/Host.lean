import AccessControl.Proofs.Journal
import AccessControl.Value.Relation

/-! Values without parts never reach the end of the stack, and few digits are always written. -/

namespace AccessControl

namespace Value

variable {runtime : Runtime} {lhs rhs value : Value} {s t : String} {error : Error}

/-! ### Texts of values -/

/-- The text of a value is written exactly if all numbers in it can be. -/
theorem written_eq_ok : value.written = .ok s ↔ value.isWritable = true ∧ value.asText = s := by
  -- Asked for is just whether the value can be written.
  unfold written
  split <;> simp_all

/-- Only a number with too many digits keeps the text of a value from being written. -/
theorem written_eq_error :
    value.written = .error error ↔ value.isWritable = false ∧ error = .number .tooLongToWrite := by
  -- There is one error for all values that cannot.
  unfold written
  cases value.isWritable <;> simp [eq_comm]

/-- A text is written as it is. -/
@[simp] theorem written_text : (Value.text s).written = .ok s := rfl

/-- All items of a list are written exactly if each of them is. -/
theorem itemsWritable_iff {items : List Value} :
    itemsWritable items = true ↔ ∀ item ∈ items, item.isWritable = true := by
  induction items with
  | nil => simp [itemsWritable]
  | cons first rest ih => simp [itemsWritable, ih]

/-! ### The end of the stack -/

/-- No stack ends before a value without parts is written. -/
theorem writing_of_depth (shallow : value.depth ≤ Runtime.levels) :
    Runtime.writing value = none := by
  cases ends : Runtime.writing value with
  | none => rfl
  | some wording =>
    -- Only a value with too many levels ends the stack.
    have deep := Runtime.deep_of_writing value (by simp [ends])
    omega

/-- No stack ends while values are compared of which one has few levels. -/
theorem comparing_of_depth (shallow : lhs.depth ≤ Runtime.levels ∨ rhs.depth ≤ Runtime.levels) :
    Runtime.comparing lhs rhs = none := by
  cases ends : Runtime.comparing lhs rhs with
  | none => rfl
  | some wording =>
    have deep := Runtime.deep_of_comparing lhs rhs (by simp [ends])
    omega

/-- Why a value cannot be written: a number in it has too many digits, or it has too many levels for
the stack. -/
def WriteFails [Runtime] (value : Value) (error : Error) : Prop :=
  (value.isWritable = false ∧ error = .number .tooLongToWrite) ∨
    (Runtime.levels < value.depth ∧ ∃ wording, error = .tooDeep wording)

/-- Where a value is not written, a number in it has too many digits or the stack has ended. -/
theorem write_eq_error (failed : value.write = .error error) : value.WriteFails error := by
  unfold write at failed
  split at failed
  · next wording ends =>
    -- The stack has ended.
    cases failed
    exact .inr ⟨Runtime.deep_of_writing value (by simp [ends]), wording, rfl⟩
  · exact .inl (written_eq_error.mp failed)

/-- Where a value is not shown, it is for the same reasons. -/
theorem writeShown_eq_error (failed : value.writeShown = .error error) :
    value.WriteFails error := by
  unfold writeShown at failed
  split at failed
  · next wording ends =>
    -- The stack has ended.
    cases failed
    exact .inr ⟨Runtime.deep_of_writing value (by simp [ends]), wording, rfl⟩
  split at failed
  · cases failed
  · next long =>
    -- There are digits left out, and the stack has not ended.
    cases failed
    exact .inl ⟨by simpa using long, rfl⟩

/-- What is written of a value is its text. -/
theorem asText_of_write (written : value.write = .ok s) : value.asText = s := by
  unfold write at written
  split at written
  · -- With an error there is no text.
    cases written
  · -- The text is the one of the value.
    exact (written_eq_ok.mp written).2

/-- A text is written as it is, whatever the stack. -/
@[simp] theorem write_text : (Value.text s).write = .ok s := by
  simp [write, (writing_of_depth (Nat.zero_le _) : Runtime.writing (.text s) = none)]

/-- Texts are written as they are, whatever the stack. -/
@[simp] theorem mapM_write_texts (texts : List String) :
    (texts.map Value.text).mapM write = .ok texts := by
  induction texts with
  | nil => rfl
  | cons first rest ih => simp [ih]

/-- All numbers in a value have few digits, and its levels are not too many for the stack. -/
structure Fits [Runtime] (value : Value) : Prop where
  writable : value.isWritable = true
  shallow : value.depth ≤ Runtime.levels

/-- A text fits. -/
theorem fits_text (s : String) : (Value.text s).Fits := ⟨rfl, Nat.zero_le _⟩

/-- A value that fits can be written. -/
theorem Fits.not_writeFails (fits : value.Fits) : ¬ value.WriteFails error := by
  rintro (⟨long, _⟩ | ⟨deep, _⟩)
  · -- No number is too long.
    cases long.symm.trans fits.writable
  · -- There are no more levels than the stack has.
    exact absurd fits.shallow (Nat.not_le.mpr deep)

/-- A value that fits is written. -/
theorem Fits.write (fits : value.Fits) : value.write = .ok value.asText := by
  simp only [Value.write, writing_of_depth fits.shallow, written_eq_ok.mpr ⟨fits.writable, rfl⟩]

/-- Values that are each written are written. -/
theorem mapM_write {values : List Value} (each : ∀ value ∈ values, ∃ s, value.write = .ok s) :
    values.mapM write = .ok (values.map asText) := by
  induction values with
  | nil => rfl
  | cons first rest ih =>
    obtain ⟨⟨s, head⟩, tail⟩ := List.forall_mem_cons.mp each
    obtain rfl := asText_of_write head
    simp [head, ih tail]

/-- The items of a list have a level less. -/
theorem depth_of_mem_items {items : List Value} {item : Value} (member : item ∈ items) :
    item.depth < itemsDepth items := by
  induction items with
  | nil => cases member
  | cons first rest ih =>
    rw [itemsDepth]
    rcases List.mem_cons.mp member with rfl | later
    · -- The item is the first one, which has a level less.
      omega
    · -- It is a later one, which is counted among the items as well.
      have := ih later
      omega

/-- The items of a list that fits fit. -/
theorem Fits.of_mem {items : List Value} {item : Value} (fits : (Value.list items).Fits)
    (member : item ∈ items) : item.Fits :=
  ⟨itemsWritable_iff.mp fits.writable item member,
    Nat.le_trans (Nat.le_of_lt (depth_of_mem_items member)) fits.shallow⟩

/-- The values of a dictionary that fits fit. -/
theorem Fits.of_mem_dict {entries : List (String × Value)} {entry : String × Value}
    (fits : (Value.dict entries).Fits) (member : entry ∈ entries) : entry.2.Fits := by
  obtain ⟨writable, shallow⟩ := fits
  simp only [isWritable, depth] at writable shallow
  induction entries with
  | nil => cases member
  | cons first rest ih =>
    simp only [entriesWritable, entriesDepth, Bool.and_eq_true] at writable shallow
    rcases List.mem_cons.mp member with rfl | later
    · -- The value is the first one.
      exact ⟨writable.1, by omega⟩
    · -- It is a later one.
      exact ih later writable.2 (by omega)

/-- The keys and the values of a table that fits fit. -/
theorem Fits.of_mem_table {pairs : List (Key × Value)} {pair : Key × Value}
    (fits : (Value.table pairs).Fits) (member : pair ∈ pairs) :
    pair.1.value.Fits ∧ pair.2.Fits := by
  obtain ⟨writable, shallow⟩ := fits
  simp only [isWritable, depth] at writable shallow
  induction pairs with
  | nil => cases member
  | cons first rest ih =>
    simp only [pairsWritable, pairsDepth, Bool.and_eq_true] at writable shallow
    obtain ⟨⟨key, value⟩, others⟩ := writable
    rcases List.mem_cons.mp member with rfl | later
    · refine ⟨⟨?_, ?_⟩, value, by omega⟩
      -- A key is a value without parts, and only a number among them may have too many digits.
      · cases own : pair.1 <;> simp_all [Key.value, isWritable]
      · cases pair.1 <;> exact Nat.zero_le _
    · -- It is of a later pair.
      exact ih later others (by omega)

/-- The keys and the values of a mapping that fits fit. -/
theorem Fits.of_mem_pairs {pairs : List (Key × Value)} (fits : value.Fits)
    (isMapping : value.pairs? = some pairs) : ∀ pair ∈ pairs, pair.1.value.Fits ∧ pair.2.Fits := by
  intro pair member
  cases value with
  -- The keys are texts, and the values are those of the dictionary.
  | dict entries =>
    obtain rfl := Option.some.inj isMapping
    obtain ⟨entry, inside, rfl⟩ := List.mem_map.mp member
    exact ⟨fits_text entry.1, fits.of_mem_dict inside⟩
  -- Both are those of the table.
  | table entries =>
    obtain rfl := Option.some.inj isMapping
    exact fits.of_mem_table member
  | _ => cases isMapping

/-- What a value that fits holds one after the other fits. -/
theorem Fits.of_mem_held {items : List Value} (fits : value.Fits) (held : value.items = .ok items) :
    ∀ item ∈ items, item.Fits := by
  intro item member
  cases value with
  -- A list holds its items.
  | list own =>
    obtain rfl := Except.ok.inj held
    exact fits.of_mem member
  -- A text holds its characters, which are texts again.
  | text s =>
    obtain rfl := Except.ok.inj held
    obtain ⟨c, _, rfl⟩ := List.mem_map.mp member
    exact fits_text _
  -- A dictionary holds its keys, which are texts.
  | dict entries =>
    obtain rfl := Except.ok.inj held
    obtain ⟨entry, _, rfl⟩ := List.mem_map.mp member
    exact fits_text _
  -- A table holds its keys, which are values of any kind without parts.
  | table entries =>
    obtain rfl := Except.ok.inj held
    obtain ⟨entry, inside, rfl⟩ := List.mem_map.mp member
    exact (fits.of_mem_table inside).1
  | _ => cases held

/-- Two texts are equal as they are. -/
@[simp] theorem looselyEqual_text : looselyEqual (.text s) (.text t) = .ok (s == t) := by
  rw [looselyEqual, comparing_of_depth (.inl (Nat.zero_le _))]
  -- Texts are no numbers, so nothing else than the characters is compared.
  by_cases same : s = t <;> simp [equal, equalScalar, isNumber, same]

end Value

end AccessControl
