import AccessControl.Callable.Builtin
import AccessControl.Proofs.Journal
import AccessControl.Proofs.Network.Address

/-! An address lies in a block exactly if it is of the version of the base and agrees with it after
a division by the power of two of the bits behind the prefix. A bare address is the block of its
full length, apart from its zone. -/

namespace AccessControl.Network

open AccessControl.Text

/-! ### Masks -/

variable {length bits value other : Nat}

/-- A mask has the highest bits, as many as its length says. -/
theorem testBit_mask (inside : length ≤ bits) (place : Nat) :
    (mask length bits).testBit place =
      (decide (bits - length ≤ place) && decide (place < bits)) := by
  rw [mask, Nat.one_shiftLeft, Nat.one_shiftLeft, Nat.testBit_xor, Nat.testBit_two_pow_sub_one,
    Nat.testBit_two_pow_sub_one]
  -- The lower bits are in both numbers, and those from the width on are in neither.
  by_cases low : place < bits - length
  · have within : place < bits := by omega
    rw [decide_eq_true low, decide_eq_true within, decide_eq_false (Nat.not_le.mpr low)]
    rfl
  · -- From there on both have the bit, or neither.
    simp [low, Nat.not_lt.mp low]

/-- A mask leaves what a division and a multiplication by the power of two of the lower bits
leave. -/
theorem and_mask (inside : length ≤ bits) (small : value < 2 ^ bits) :
    value &&& mask length bits = value / 2 ^ (bits - length) * 2 ^ (bits - length) := by
  rw [← Nat.shiftRight_eq_div_pow, ← Nat.shiftLeft_eq]
  apply Nat.eq_of_testBit_eq
  intro place
  rw [Nat.testBit_and, testBit_mask inside, Nat.testBit_shiftLeft, Nat.testBit_shiftRight]
  by_cases high : bits - length ≤ place
  · rw [Nat.add_sub_cancel' high]
    by_cases within : place < bits
    · -- The bit is within the width, and kept.
      simp [high, within]
    · -- From the width on the value has no bits.
      have none : value.testBit place = false :=
        Nat.testBit_lt_two_pow
          (small.trans_le (Nat.pow_le_pow_right (by decide) (Nat.not_lt.mp within)))
      simp [none]
  · -- The lower bits are cleared.
    simp [high]

/-- Two values are the same under a mask exactly if they are the same after the division. -/
theorem and_mask_eq_iff (inside : length ≤ bits) (small : value < 2 ^ bits)
    (smallOther : other < 2 ^ bits) : value &&& mask length bits = other &&& mask length bits ↔
      value / 2 ^ (bits - length) = other / 2 ^ (bits - length) := by
  rw [and_mask inside small, and_mask inside smallOther]
  exact Nat.mul_left_inj (Nat.two_pow_pos _).ne'

/-! ### Lengths -/

/-- A length in a block is written in ASCII digits, and in no more of them than a number may
have. -/
structure IsLength (text : List Char) : Prop where
  some : text ≠ []
  digits : ∀ c ∈ text, isAsciiDigit c = true
  few : text.length ≤ Decimal.digitLimit

/-- The number that a length is written for. -/
def lengthOf (text : List Char) : Nat :=
  Decimal.ofDigits (text.map asciiDigitValue)

/-- A length is read as its number, unless an address has fewer bits. -/
theorem readLength_eq {text : List Char} (written : IsLength text) :
    readLength text bits = .ok (if lengthOf text ≤ bits then some (lengthOf text) else none) := by
  -- No digit is a blank, so nothing is removed at the ends.
  have visible : ∀ c ∈ text, isBlank c = false := by
    intro c member
    have bounds := Decimal.isAsciiDigit_iff.mp (written.digits c member)
    simp only [isBlank, Bool.or_eq_false_iff, Bool.and_eq_false_iff, decide_eq_false_iff_not,
      beq_eq_false_iff_ne]
    omega
  have trimmed : trimChars text = text := Decimal.trimBoth_eq_self visible
  have all : text.all isAsciiDigit = true := List.all_eq_true.mpr written.digits
  have few : ¬ Decimal.digitLimit < text.length := Nat.not_lt.mpr written.few
  have whole : Decimal.wholeOfDigits false (text.map asciiDigitValue) = .value (lengthOf text) := by
    rw [Decimal.wholeOfDigits, List.length_map, if_neg few]
    rfl
  by_cases inside : lengthOf text ≤ bits <;>
    simp [readLength, trimmed, written.some, all, whole, inside]

/-! ### Blocks -/

/-- The addresses are of one version, and their first bits are the same, as many as are given. -/
structure Address.SharesBits (first second : Address) (length : Nat) : Prop where
  versions : first.version = second.version
  inside : length ≤ second.version.bits
  same : first.value / 2 ^ (second.version.bits - length) =
    second.value / 2 ^ (second.version.bits - length)

/-- Sharing bits is told by versions, widths and values. -/
theorem Address.sharesBits_iff {first second : Address} {length : Nat} :
    first.SharesBits second length ↔ first.version = second.version ∧ length ≤ second.version.bits ∧
      first.value / 2 ^ (second.version.bits - length) =
        second.value / 2 ^ (second.version.bits - length) :=
  ⟨fun ⟨versions, inside, same⟩ => ⟨versions, inside, same⟩,
    fun ⟨versions, inside, same⟩ => ⟨versions, inside, same⟩⟩

/-- Whether addresses share bits can be computed. -/
instance Address.SharesBits.decidable (first second : Address) (length : Nat) :
    Decidable (first.SharesBits second length) :=
  decidable_of_iff' _ Address.sharesBits_iff

/-- The lowest value that an address with the same first bits can have. -/
def Address.networkValue (address : Address) (length : Nat) : Nat :=
  address.value / 2 ^ (address.version.bits - length) * 2 ^ (address.version.bits - length)

variable {first second : Address}

/-- Addresses that share bits share the first of them. -/
theorem Address.SharesBits.shorter {shorter : Nat} (shares : first.SharesBits second length)
    (fewer : shorter ≤ length) : first.SharesBits second shorter := by
  obtain ⟨versions, inside, same⟩ := shares
  refine ⟨versions, fewer.trans inside, ?_⟩
  -- The further bits are divided away in a second step.
  have split : second.version.bits - shorter =
    (second.version.bits - length) + (length - shorter) := by omega
  rw [split, Nat.pow_add, ← Nat.div_div_eq_div_mul, ← Nat.div_div_eq_div_mul, same]

/-- An address shares bits with itself and with the lowest address that does. -/
theorem Address.sharesBits_network (versions : second.version = first.version)
    (inside : length ≤ first.version.bits)
    (own : second.value = first.value ∨ second.value = first.networkValue length) :
    first.SharesBits second length := by
  refine ⟨versions.symm, versions ▸ inside, ?_⟩
  rw [versions]
  rcases own with same | lowest
  · -- The addresses are the same.
    rw [same]
  · -- The address of the network is the lowest of the block.
    rw [lowest, networkValue, Nat.mul_div_cancel _ (Nat.two_pow_pos _)]

/-- Within a block are the addresses that share its first bits. -/
theorem within_eq {text : List Char} (smallFirst : first.value < 2 ^ first.version.bits)
    (smallSecond : second.value < 2 ^ second.version.bits) (written : IsLength text) :
    within first second (some text) = .ok (decide (first.SharesBits second (lengthOf text))) := by
  by_cases versions : first.version = second.version
  · by_cases inside : lengthOf text ≤ second.version.bits
    · -- The masked values are compared.
      rw [versions] at smallFirst
      have answers := and_mask_eq_iff inside smallFirst smallSecond
      have shares : first.SharesBits second (lengthOf text) ↔
          first.value &&& mask (lengthOf text) second.version.bits =
            second.value &&& mask (lengthOf text) second.version.bits :=
        ⟨fun shares => answers.mpr shares.same, fun same => ⟨versions, inside, answers.mp same⟩⟩
      simp [within, versions, readLength_eq written, inside, shares, Except.map, beq_eq_decide]
    · -- The length is too large for the version.
      have apart : ¬ first.SharesBits second (lengthOf text) := fun shares => inside shares.inside
      simp [within, versions, readLength_eq written, inside, apart, Except.map]
  · -- The versions differ.
    have apart : ¬ first.SharesBits second (lengthOf text) := fun shares => versions shares.versions
    simp [within, versions, apart]

variable {address base text : List Char}

/-- A block with an address and a length is tested for the bits that its base shares. -/
theorem inBlock_eq {otherwise : Bool} (readFirst : Address.read? address = some first)
    (readSecond : Address.read? base = some second) (written : IsLength text) :
    inBlock otherwise address (base ++ '/' :: text) =
      .ok (decide (first.SharesBits second (lengthOf text))) := by
  have parts : splitBlock (base ++ '/' :: text) = (base, some text) := by
    rw [splitBlock, splitAtFirst_append (of_read? readSecond).1]
  simp only [inBlock, readFirst, parts, readSecond]
  exact within_eq (Address.value_lt readFirst) (Address.value_lt readSecond) written

/-- A block of an address alone has no other address. -/
theorem inBlock_bare {otherwise : Bool} (readFirst : Address.read? address = some first)
    (readSecond : Address.read? base = some second) :
    inBlock otherwise address base = .ok (decide (first = second)) := by
  have parts : splitBlock base = (base, none) := by
    rw [splitBlock, splitAtFirst_eq_none (of_read? readSecond).1]
  simp only [inBlock, readFirst, parts, readSecond, within]
  -- Addresses of different versions are different, so the versions need no comparison of their own.
  by_cases versions : first.version = second.version
  · -- Addresses of one version are compared as they are.
    simp [versions, beq_eq_decide]
  · have apart : first ≠ second := fun same => versions (congrArg Address.version same)
    simp [versions, apart]

/-- Addresses share all bits exactly if their versions and values are the same. -/
theorem Address.sharesBits_all : first.SharesBits second second.version.bits ↔
    first.version = second.version ∧ first.value = second.value := by
  constructor
  · -- All bits are shared, so the values are the same.
    rintro ⟨versions, _, same⟩
    exact ⟨versions, by simpa using same⟩
  · -- Equal values share all bits.
    rintro ⟨versions, same⟩
    exact ⟨versions, Nat.le_refl _, by rw [same]⟩

/-- Addresses are the same exactly if they share all bits and have the same zone. -/
theorem Address.eq_iff_sharesBits : first = second ↔
    first.SharesBits second second.version.bits ∧ first.zone = second.zone := by
  rw [Address.sharesBits_all]
  obtain ⟨version, value, zone⟩ := first
  obtain ⟨versionOther, valueOther, zoneOther⟩ := second
  simp only [Address.mk.injEq, and_assoc]

end AccessControl.Network

namespace AccessControl

open AccessControl.Network

section

variable {address base : String} {first second : Address}

/-- Both tests for blocks, of an address and of the text of a block with an address and a length,
say whether the block has the address among those that share its bits. -/
theorem Registry.ipMatch_call [Runtime] (now : Time.Moment)
    (readFirst : Address.read? address.toList = some first)
    (readSecond : Address.read? base.toList = some second) :
    ∃ lenient strict, (Registry.builtin now).get? "ipMatch" = some lenient ∧
      (Registry.builtin now).get? "ipMatch2" = some strict ∧
      ∀ length : String, IsLength length.toList →
        lenient.call [.text address, .text (base ++ "/" ++ length)] =
          .ok (.flag (decide (first.SharesBits second (lengthOf length.toList)))) ∧
        strict.call [.text address, .text (base ++ "/" ++ length)] =
          .ok (.flag (decide (first.SharesBits second (lengthOf length.toList)))) := by
  refine ⟨_, _, rfl, rfl, fun length written => ?_⟩
  have block : (base ++ "/" ++ length).toList = base.toList ++ '/' :: length.toList := by simp
  have answers (otherwise : Bool) :
      inBlock otherwise address.toList (base ++ "/" ++ length).toList =
      .ok (decide (first.SharesBits second (lengthOf length.toList))) := by
    rw [block]
    exact inBlock_eq readFirst readSecond written
  exact ⟨congrArg (Except.map Value.flag) (answers true),
    congrArg (Except.map Value.flag) (answers false)⟩

/-- Both tests for blocks have one answer for an address and a block, whatever digits the length is
written in. It is true exactly if the versions are the same, the length is one of that version, and
the values agree after a division by the power of two of the bits behind it. So an address lies in
its own block of any length, and one that lies in a block lies in every block of the same base with
a shorter length. -/
theorem Registry.ipMatch_sharesBits [Runtime] (now : Time.Moment)
    (readFirst : Address.read? address.toList = some first)
    (readSecond : Address.read? base.toList = some second) :
    ∃ lenient strict, (Registry.builtin now).get? "ipMatch" = some lenient ∧
      (Registry.builtin now).get? "ipMatch2" = some strict ∧
      ∃ holds : Nat → Bool,
        (∀ length : String, IsLength length.toList →
          lenient.call [.text address, .text (base ++ "/" ++ length)] =
            .ok (.flag (holds (lengthOf length.toList))) ∧
          strict.call [.text address, .text (base ++ "/" ++ length)] =
            .ok (.flag (holds (lengthOf length.toList)))) ∧
        (∀ length, holds length = true ↔ first.version = second.version ∧
          length ≤ second.version.bits ∧
          first.value / 2 ^ (second.version.bits - length) =
            second.value / 2 ^ (second.version.bits - length)) ∧
        (∀ length ≤ first.version.bits, second.version = first.version →
          second.value = first.value ∨ second.value = first.networkValue length →
          holds length = true) ∧
        ∀ length shorter, shorter ≤ length → holds length = true → holds shorter = true := by
  obtain ⟨lenient, strict, foundLenient, foundStrict, called⟩ :=
    Registry.ipMatch_call now readFirst readSecond
  refine ⟨lenient, strict, foundLenient, foundStrict, fun length =>
    decide (first.SharesBits second length),
    called, fun length => ?_, fun length inside versions own => ?_,
      fun length shorter fewer holds => ?_⟩
  · -- The bits are those of the quotients.
    rw [decide_eq_true_eq]
    exact Address.sharesBits_iff
  · -- The own address of a block is in it.
    exact decide_eq_true (Address.sharesBits_network versions inside own)
  · -- With fewer bits to share there are more addresses.
    exact decide_eq_true ((of_decide_eq_true holds).shorter fewer)

/-- An address of version six lies in the block of its first 32 bits. -/
theorem Registry.ipMatch_sharesBits_six :
    Address.read? "2001:db8:5::1".toList = some ⟨.six, 0x20010db8000500000000000000000001, none⟩ ∧
      Address.read? "2001:db8::".toList = some ⟨.six, 0x20010db8000000000000000000000000, none⟩ ∧
      IsLength "032".toList ∧
      ∃ strict, (Registry.builtin 0).get? "ipMatch2" = some strict ∧
        strict.call [.text "2001:db8:5::1", .text ("2001:db8::" ++ "/" ++ "032")] =
          .ok (.flag true) := by
  have readFirst : Address.read? "2001:db8:5::1".toList =
      some ⟨.six, 0x20010db8000500000000000000000001, none⟩ := by decide +kernel
  have readSecond : Address.read? "2001:db8::".toList =
      some ⟨.six, 0x20010db8000000000000000000000000, none⟩ := by decide +kernel
  have written : IsLength "032".toList := ⟨by decide, List.all_eq_true.mp (by decide), by decide⟩
  obtain ⟨_, strict, _, found, holds, called, _, own, _⟩ :=
    Registry.ipMatch_sharesBits 0 readFirst readSecond
  refine ⟨readFirst, readSecond, written, strict, found, ?_⟩
  have whole : holds (lengthOf "032".toList) = true := own _ (by decide) rfl (.inr (by decide))
  rw [(called "032" written).2, whole]

/-- Both tests for blocks have an answer for two addresses, and one for an address and the block of
all bits of the other. The second is true exactly if the versions and the values are the same, and
the first exactly if the zones are as well. So the two answers are the same unless the addresses
differ in their zones, which those of version four do not have. -/
theorem Registry.ipMatch_bare [Runtime] (now : Time.Moment)
    (readFirst : Address.read? address.toList = some first)
    (readSecond : Address.read? base.toList = some second) {length : String}
    (written : IsLength length.toList)
    (all : lengthOf length.toList = second.version.bits) :
    ∃ lenient strict bare whole, (Registry.builtin now).get? "ipMatch" = some lenient ∧
      (Registry.builtin now).get? "ipMatch2" = some strict ∧
      lenient.call [.text address, .text base] = .ok (.flag bare) ∧
      strict.call [.text address, .text base] = .ok (.flag bare) ∧
      lenient.call [.text address, .text (base ++ "/" ++ length)] = .ok (.flag whole) ∧
      strict.call [.text address, .text (base ++ "/" ++ length)] = .ok (.flag whole) ∧
      (whole = true ↔ first.version = second.version ∧ first.value = second.value) ∧
      (bare = true ↔ whole = true ∧ first.zone = second.zone) ∧
      (first.zone = second.zone → bare = whole) ∧
      (first.version = .four ∨ second.version = .four → bare = whole) := by
  obtain ⟨lenient, strict, foundLenient, foundStrict, called⟩ :=
    Registry.ipMatch_call now readFirst readSecond
  obtain ⟨calledLenient, calledStrict⟩ := called length written
  rw [all] at calledLenient calledStrict
  have answers (otherwise : Bool) :
      inBlock otherwise address.toList base.toList = .ok (decide (first = second)) :=
    inBlock_bare readFirst readSecond
  have bare : decide (first = second) = true ↔
      decide (first.SharesBits second second.version.bits) = true ∧ first.zone = second.zone := by
    rw [decide_eq_true_eq, decide_eq_true_eq]
    exact Address.eq_iff_sharesBits
  have alike (zones : first.zone = second.zone) :
      decide (first = second) = decide (first.SharesBits second second.version.bits) := by
    rw [Bool.eq_iff_iff, bare, and_iff_left zones]
  refine ⟨lenient, strict, _, _, foundLenient, foundStrict, ?_, ?_, calledLenient, calledStrict, ?_,
    bare, alike, ?_⟩
  · -- The lenient test.
    obtain rfl := Option.some.inj foundLenient
    exact congrArg (Except.map Value.flag) (answers true)
  · -- The strict test.
    obtain rfl := Option.some.inj foundStrict
    exact congrArg (Except.map Value.flag) (answers false)
  · -- All bits of the version are the whole value.
    rw [decide_eq_true_eq]
    exact Address.sharesBits_all
  · intro four
    by_cases versions : first.version = second.version
    · -- Both addresses are of version four, so neither has a zone.
      have both : first.version = .four ∧ second.version = .four := by simpa [versions] using four
      exact alike ((Address.zone_of_four readFirst both.1).trans
        (Address.zone_of_four readSecond both.2).symm)
    · -- Addresses of different versions are different, and share no bits.
      have apart : first ≠ second := fun same => versions (congrArg Address.version same)
      have unshared : ¬ first.SharesBits second second.version.bits :=
        fun shares => versions shares.versions
      rw [decide_eq_false apart, decide_eq_false unshared]

/-- An address with a zone is itself, and lies in its own block of all bits. -/
theorem Registry.ipMatch_bare_zoned :
    Address.read? "fe80::1%eth0".toList =
      some ⟨.six, 0xfe800000000000000000000000000001, some "eth0".toList⟩ ∧
      IsLength "128".toList ∧ lengthOf "128".toList = Version.six.bits ∧
      ∃ strict, (Registry.builtin 0).get? "ipMatch2" = some strict ∧
        strict.call [.text "fe80::1%eth0", .text "fe80::1%eth0"] = .ok (.flag true) ∧
        strict.call [.text "fe80::1%eth0", .text ("fe80::1%eth0" ++ "/" ++ "128")] =
          .ok (.flag true) := by
  have read : Address.read? "fe80::1%eth0".toList =
      some ⟨.six, 0xfe800000000000000000000000000001, some "eth0".toList⟩ := by decide +kernel
  have written : IsLength "128".toList := ⟨by decide, List.all_eq_true.mp (by decide), by decide⟩
  have all : lengthOf "128".toList = Version.six.bits := by decide
  obtain ⟨_, strict, bare, whole, _, found, _, calledBare, _, calledWhole, shares, _, alike, _⟩ :=
    Registry.ipMatch_bare 0 read read written all
  have holds : whole = true := shares.mpr ⟨rfl, rfl⟩
  rw [alike rfl, holds] at calledBare
  rw [holds] at calledWhole
  exact ⟨read, written, all, strict, found, calledBare, calledWhole⟩

/-- An address with a zone is not the same without it, but lies in the block of all bits of that
one. -/
theorem Registry.ipMatch_tells_zones : ∃ lenient strict,
    (Registry.builtin 0).get? "ipMatch" = some lenient ∧
    (Registry.builtin 0).get? "ipMatch2" = some strict ∧
    lenient.call [.text "fe80::1%eth0", .text "fe80::1"] = .ok (.flag false) ∧
    lenient.call [.text "fe80::1%eth0", .text "fe80::1/128"] = .ok (.flag true) ∧
    strict.call [.text "fe80::1%eth0", .text "fe80::1"] = .ok (.flag false) ∧
    strict.call [.text "fe80::1%eth0", .text "fe80::1/128"] = .ok (.flag true) := by
  have apart (otherwise : Bool) :
      (inBlock otherwise "fe80::1%eth0".toList "fe80::1".toList).toOption = some false := by
    cases otherwise <;> decide +kernel
  have inside (otherwise : Bool) :
      (inBlock otherwise "fe80::1%eth0".toList "fe80::1/128".toList).toOption = some true := by
    cases otherwise <;> decide +kernel
  refine ⟨_, _, rfl, rfl, ?_, ?_, ?_, ?_⟩
  · exact congrArg (Except.map Value.flag) (toOption_eq_some.mp (apart true))
  · exact congrArg (Except.map Value.flag) (toOption_eq_some.mp (inside true))
  · exact congrArg (Except.map Value.flag) (toOption_eq_some.mp (apart false))
  · exact congrArg (Except.map Value.flag) (toOption_eq_some.mp (inside false))

end

end AccessControl
