import AccessControl.Network.Block
import AccessControl.Proofs.Journal
import AccessControl.Proofs.Text.Split

/-! The one way in which a test for a block of addresses fails: a prefix with too many digits. -/

namespace AccessControl.Network

open AccessControl.Text

/-- Behind its slash the block has more digits than a number may have, and before it an address of
the version of the first one. -/
inductive OverlongPrefix : List Char → List Char → Nat → Prop
  | intro {address base length : List Char} {first second : Address}
    (readFirst : Address.read? address = some first) (readBase : Address.read? base = some second)
    (versions : first.version = second.version) (apart : '/' ∉ base)
    (digits : ∀ c ∈ trimChars length, isAsciiDigit c = true)
    (many : Decimal.digitLimit < (trimChars length).length) :
    OverlongPrefix address (base ++ '/' :: length) (trimChars length).length

variable {address block : List Char} {error : Error}

/-- A length is not read only for too many digits. -/
theorem readLength_eq_error {length : List Char} {bits : Nat} :
    readLength length bits = .error error ↔
      error = .number (.tooManyDigits (trimChars length).length) ∧
        (∀ c ∈ trimChars length, isAsciiDigit c = true) ∧
        Decimal.digitLimit < (trimChars length).length := by
  unfold readLength Decimal.wholeOfDigits
  generalize trimChars length = digits
  simp only [List.length_map]
  by_cases many : Decimal.digitLimit < digits.length
  · by_cases plain : ∀ c ∈ digits, isAsciiDigit c = true
    · -- There are digits alone, and too many of them.
      have some : digits.isEmpty = false := by
        cases digits with
        | nil => exact absurd many (Nat.not_lt_zero _)
        | cons => rfl
      have all : digits.all isAsciiDigit = true := List.all_eq_true.mpr plain
      simp only [some, all, Bool.not_true, Bool.or_false, Bool.false_eq_true, many,
        if_true, if_false]
      exact ⟨fun failed => ⟨(Except.error.inj failed).symm, plain, trivial⟩,
        fun ⟨same, _⟩ => same ▸ rfl⟩
    · -- With anything but digits the text is no number, and no error is raised.
      have all : digits.all isAsciiDigit = false := by
        rw [← Bool.not_eq_true, List.all_eq_true]
        exact plain
      simp [all, plain]
  · -- A number of few digits is read, whether or not it is within the width.
    simp only [many, if_false, and_false, iff_false]
    split <;> exact nofun

/-- Two addresses are compared unless the length for them is not read. -/
theorem within_eq_error {first second : Address} {length : Option (List Char)} :
    within first second length = .error error ↔ first.version = second.version ∧
      ∃ text, length = some text ∧ readLength text second.version.bits = .error error := by
  unfold within
  by_cases same : first.version = second.version
  · -- A length is read of the second address alone, and for its width.
    cases length with
    | none => simp [same]
    | some text => simp [same, map_eq_error]
  · simp [same]

/-- A test for a block fails only for a prefix with too many digits. -/
theorem inBlock_eq_error {otherwise : Bool} : inBlock otherwise address block = .error error ↔
    ∃ count, error = .number (.tooManyDigits count) ∧ OverlongPrefix address block count := by
  unfold inBlock splitBlock
  constructor
  · intro failed
    cases readFirst : Address.read? address with
    | none => simp [readFirst] at failed
    | some first =>
      cases split : splitAtFirst '/' block with
      | none =>
        -- Without a slash no length is read.
        simp only [readFirst, split] at failed
        split at failed
        · cases failed
        · obtain ⟨_, _, none, _⟩ := within_eq_error.mp failed
          cases none
      | some parts =>
        -- With a slash the error is that of the length after it.
        obtain ⟨base, length⟩ := parts
        obtain ⟨rfl, apart⟩ := of_splitAtFirst_eq_some split
        simp only [readFirst, split] at failed
        split at failed
        · cases failed
        · next second readBase =>
          obtain ⟨versions, _, given, unread⟩ := within_eq_error.mp failed
          obtain rfl := Option.some.inj given
          obtain ⟨rfl, digits, many⟩ := readLength_eq_error.mp unread
          exact ⟨_, rfl, .intro readFirst readBase versions apart digits many⟩
  · rintro ⟨_, rfl, ⟨readFirst, readBase, versions, apart, digits, many⟩⟩
    simp only [readFirst, splitAtFirst_append apart, readBase]
    exact within_eq_error.mpr ⟨versions, _, rfl, readLength_eq_error.mpr ⟨rfl, digits, many⟩⟩

/-- A test for a range fails only where it is one for a block that fails. -/
theorem inRange_eq_error : inRange address block = .error error ↔
    ∃ count, error = .number (.tooManyDigits count) ∧ OverlongPrefix address block count := by
  unfold inRange
  by_cases slash : block.contains '/' = true
  · simp only [slash, if_true]
    exact inBlock_eq_error
  · -- Without a slash no prefix is written, whether or not a range is.
    have short : ¬ ∃ count, error = .number (.tooManyDigits count) ∧
        OverlongPrefix address block count := by
      rintro ⟨_, _, ⟨_, _, _, _, _, _⟩⟩
      simp at slash
    simp only [slash, short, iff_false]
    split
    · split <;> exact nofun
    · exact fun failed => short (inBlock_eq_error.mp failed)

end AccessControl.Network
