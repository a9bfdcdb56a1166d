import AccessControl.Proofs.Network.Block
import AccessControl.Proofs.Network.Prefix

/-! The test for ranges of addresses passes for what lies between the two ends of a range and for
what the test for blocks passes, unless a zone has the hyphen by which a range is told. -/

namespace AccessControl.Network

open AccessControl.Text

/-- The range is written as two addresses with a hyphen between them, the first one in the text, and
the address is of the same version as both and lies between them. -/
inductive LiesBetween : List Char → List Char → Prop
  | intro {address first last : List Char} {asked low high : Address} (apart : '-' ∉ first)
    (plain : '/' ∉ first ++ '-' :: last) (readAsked : Address.read? address = some asked)
    (readLow : Address.read? first = some low) (readHigh : Address.read? last = some high)
    (versionLow : low.version = asked.version) (versionHigh : high.version = asked.version)
    (least : low.value ≤ asked.value) (most : asked.value ≤ high.value) :
    LiesBetween address (first ++ '-' :: last)

/-- The text is an address with a hyphen in the name of its zone. -/
def ZoneHasHyphen (text : List Char) : Prop :=
  ∃ address zone, Address.read? text = some address ∧ address.zone = some zone ∧ '-' ∈ zone

variable {address range : List Char}

/-- An address with a hyphen has it in its zone. -/
theorem zoneHasHyphen_of_mem {base : Address} (read : Address.read? range = some base)
    (hyphen : '-' ∈ range) : ZoneHasHyphen range := by
  obtain ⟨zone, named, inside⟩ := Address.mem_zone read hyphen (by decide) (by decide) (by decide)
  exact ⟨base, zone, read, named, inside⟩

/-- A text with a hyphen in its zone has one, and no slash. -/
theorem ZoneHasHyphen.mem (zoned : ZoneHasHyphen range) : '-' ∈ range ∧ '/' ∉ range := by
  obtain ⟨base, zone, read, named, inside⟩ := zoned
  obtain ⟨plain, ⟨_, _, rfl⟩ | ⟨_, _, rfl⟩ | ⟨front, _, _, parts, _, rfl⟩⟩ := of_read? read
  · cases named
  · cases named
  · obtain rfl := Option.some.inj named
    -- No hyphen is a blank, so it is in the text if it is in what stays without the blanks at the
    -- ends.
    have kept : '-' ∈ trimChars range := by simp [parts, inside]
    exact ⟨(mem_trimChars (by decide)).mp kept, plain⟩

/-- What lies between the ends of a range can be told of the two parts at its first hyphen. -/
theorem liesBetween_iff {first last : List Char} (apart : '-' ∉ first)
    (plain : '/' ∉ first ++ '-' :: last) :
    LiesBetween address (first ++ '-' :: last) ↔ ∃ asked low high,
      Address.read? address = some asked ∧ Address.read? first = some low ∧
      Address.read? last = some high ∧
      low.version = asked.version ∧ high.version = asked.version ∧
      low.value ≤ asked.value ∧ asked.value ≤ high.value := by
  constructor
  · intro between
    generalize same : first ++ '-' :: last = range at between
    obtain ⟨apartOther, _, readAsked, readLow, readHigh, versionLow, versionHigh, least, most⟩ :=
      between
    -- Both splits are at the first hyphen, so they are one.
    have split := congrArg (splitAtFirst '-') same
    rw [splitAtFirst_append apart, splitAtFirst_append apartOther] at split
    obtain ⟨rfl, rfl⟩ := Prod.mk.inj (Option.some.inj split)
    exact ⟨_, _, _, readAsked, readLow, readHigh, versionLow, versionHigh, least, most⟩
  · rintro ⟨_, _, _, readAsked, readLow, readHigh, versionLow, versionHigh, least, most⟩
    exact .intro apart plain readAsked readLow readHigh versionLow versionHigh least most

/-- A text with a hyphen and without a slash is tested as a range. -/
theorem inRange_of_hyphen (address : List Char) (hyphen : '-' ∈ range) (plain : '/' ∉ range) :
    ∃ holds, inRange address range = .ok holds ∧ (holds = true ↔ LiesBetween address range) := by
  obtain ⟨first, last, rfl, apart⟩ := List.eq_append_cons_of_mem hyphen
  have split :
      (if (first ++ '-' :: last).contains '/' then none else splitAtFirst '-'
        (first ++ '-' :: last)) = some (first, last) := by
    rw [if_neg (by simpa using plain), splitAtFirst_append apart]
  simp only [inRange, split, liesBetween_iff apart plain]
  -- If one of the three texts is no address, nothing lies between.
  cases Address.read? address with
  | none => exact ⟨false, rfl, by simp⟩
  | some asked =>
    cases Address.read? first with
    | none => exact ⟨false, rfl, by simp⟩
    | some low =>
      cases Address.read? last with
      | none => exact ⟨false, rfl, by simp⟩
      | some high =>
        refine ⟨_, rfl, ?_⟩
        -- The code compares the versions in another order than `LiesBetween` does.
        have versions : asked.version = low.version ∧ low.version = high.version ↔
            low.version = asked.version ∧ high.version = asked.version :=
          ⟨fun ⟨first, second⟩ => ⟨first.symm, (first.trans second).symm⟩,
            fun ⟨first, second⟩ => ⟨first.symm, first.trans second.symm⟩⟩
        simp only [Bool.and_eq_true, beq_iff_eq, decide_eq_true_eq, versions, Option.some.injEq,
          exists_and_left, exists_eq_left', and_assoc]

/-- A text without a hyphen, or with a slash, is tested as a block. -/
theorem inRange_of_plain (other : '-' ∈ range → '/' ∈ range) :
    inRange address range = inBlock false address range := by
  have split : (if range.contains '/' then none else splitAtFirst '-' range) = none := by
    -- With a slash the hyphen is not looked for, and without one there is none.
    by_cases slash : '/' ∈ range
    · simp [slash]
    · simp [slash, splitAtFirst_eq_none fun hyphen => slash (other hyphen)]
  rw [inRange, split]

/-- The test for ranges passes exactly for what lies between the ends of a range, and for what the
test for blocks passes, unless the zone has a hyphen. -/
theorem inRange_iff : inRange address range = .ok true ↔
    LiesBetween address range ∨ inBlock false address range = .ok true ∧ ¬ ZoneHasHyphen range := by
  by_cases written : '-' ∈ range ∧ '/' ∉ range
  · -- A block that is written with a hyphen and without a slash has the hyphen in its zone.
    obtain ⟨hyphen, plain⟩ := written
    obtain ⟨holds, tested, between⟩ := inRange_of_hyphen address hyphen plain
    have zoned (passed : inBlock false address range = .ok true) : ZoneHasHyphen range := by
      have parts : splitBlock range = (range, none) := by
        rw [splitBlock, splitAtFirst_eq_none plain]
      simp only [inBlock, parts] at passed
      cases read : Address.read? range with
      | some base => exact zoneHasHyphen_of_mem read hyphen
      | none => cases asked : Address.read? address <;> simp [asked, read] at passed
    rw [tested, Except.ok.injEq, between]
    exact ⟨.inl, fun either => either.resolve_right fun both => both.2 (zoned both.1)⟩
  · -- Any other text is neither a range nor has it a hyphen in its zone.
    have other (hyphen : '-' ∈ range) : '/' ∈ range := by
      by_contra plain
      exact written ⟨hyphen, plain⟩
    have unranged : ¬ LiesBetween address range := by
      rintro ⟨_, plain, _⟩
      exact plain (other (by simp))
    have unzoned : ¬ ZoneHasHyphen range := fun zoned => zoned.mem.2 (other zoned.mem.1)
    rw [inRange_of_plain other]
    simp [unranged, unzoned]

/-- The tests for ranges and for blocks fail for the same texts, in the same way. -/
theorem inRange_eq_error_iff {error : Error} :
    inRange address range = .error error ↔ inBlock false address range = .error error :=
  inRange_eq_error.trans inBlock_eq_error.symm

end AccessControl.Network

namespace AccessControl

open AccessControl.Network

/-- For an address and any text the test for ranges fails exactly if the one for blocks does, and
with the same error. It passes exactly if the address lies between the ends of a range, or the test
for blocks passes and no zone has a hyphen. So it passes for nothing but what the test for blocks
passes and what lies in a range, and for all of that unless the text is an address whose zone has a
hyphen. -/
theorem Registry.ipMatch3_extends [Runtime] (now : Time.Moment) (address range : String) :
    ∃ blocks ranges, (Registry.builtin now).get? "ipMatch2" = some blocks ∧
      (Registry.builtin now).get? "ipMatch3" = some ranges ∧
      (∀ error, ranges.call [.text address, .text range] = .error error ↔
        blocks.call [.text address, .text range] = .error error) ∧
      (ranges.call [.text address, .text range] = .ok (.flag true) ↔
        LiesBetween address.toList range.toList ∨
          blocks.call [.text address, .text range] = .ok (.flag true) ∧
          ¬ ZoneHasHyphen range.toList) ∧
      (¬ ZoneHasHyphen range.toList → (ranges.call [.text address, .text range] = .ok (.flag true) ↔
        blocks.call [.text address, .text range] = .ok (.flag true) ∨
          LiesBetween address.toList range.toList)) := by
  have flagged {tested : Except Error Bool} : tested.map Value.flag = .ok (.flag true) ↔
      tested = .ok true := by
    cases tested <;> simp [Except.map]
  have passes : (inRange address.toList range.toList).map Value.flag = .ok (.flag true) ↔
      LiesBetween address.toList range.toList ∨
        (inBlock false address.toList range.toList).map Value.flag = .ok (.flag true) ∧
          ¬ ZoneHasHyphen range.toList := by
    rw [flagged, flagged]
    exact inRange_iff
  refine ⟨_, _, rfl, rfl, fun error => ?_, passes, fun unzoned => passes.trans ?_⟩
  · exact map_eq_error.trans (inRange_eq_error_iff.trans map_eq_error.symm)
  · rw [and_iff_left unzoned]
    exact or_comm

/-- An address with a hyphen in its zone is in the block of itself, and not in the range that it is
taken for. -/
theorem Registry.ipMatch3_mistakes_zone : ∃ blocks ranges,
    (Registry.builtin 0).get? "ipMatch2" = some blocks ∧
    (Registry.builtin 0).get? "ipMatch3" = some ranges ∧
    blocks.call [.text "fe80::1%eth-0", .text "fe80::1%eth-0"] = .ok (.flag true) ∧
    ranges.call [.text "fe80::1%eth-0", .text "fe80::1%eth-0"] = .ok (.flag false) := by
  have inside : (inBlock false "fe80::1%eth-0".toList "fe80::1%eth-0".toList).toOption =
      some true := by
    decide +kernel
  have apart : (inRange "fe80::1%eth-0".toList "fe80::1%eth-0".toList).toOption = some false := by
    decide +kernel
  refine ⟨_, _, rfl, rfl, ?_, ?_⟩
  · exact congrArg (Except.map Value.flag) (toOption_eq_some.mp inside)
  · exact congrArg (Except.map Value.flag) (toOption_eq_some.mp apart)

end AccessControl
