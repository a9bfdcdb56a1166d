import AccessControl.Network.Address
import AccessControl.Proofs.Text.Blanks
import AccessControl.Proofs.Text.Split
import Mathlib.Algebra.Group.Nat.Defs

/-! What is known of an address that was read: its value fits its version, only version six has
zones, and apart from its zone it is written in hexadecimal digits, points and colons. -/

namespace AccessControl.Network

open AccessControl.Text

/-- A character that addresses are written with, apart from their zones. -/
def isAddressChar (c : Char) : Bool :=
  (hexDigitValue? c).isSome || c == '.' || c == ':'

variable {cs : List Char} {c : Char} {n : Nat}

/-! ### Digits -/

/-- A hexadecimal digit is below sixteen. -/
theorem hexDigitValue?_lt {digit : Nat} (read : hexDigitValue? c = some digit) : digit < 16 := by
  unfold hexDigitValue? at read
  have letter : ∀ low high : Char, (low ≤ c && c ≤ high) = true →
      low.toNat ≤ c.toNat ∧ c.toNat ≤ high.toNat := by
    intro low high between
    simp only [Bool.and_eq_true, decide_eq_true_eq, Char.le_def, UInt32.le_iff_toNat_le] at between
    exact between
  split at read
  · -- A decimal digit.
    next ascii =>
    have bounds := Decimal.isAsciiDigit_iff.mp ascii
    obtain rfl := Option.some.inj read
    simp only [asciiDigitValue, Char.reduceToNat]
    omega
  split at read
  · -- A small letter.
    next small =>
    have bounds := letter _ _ small
    obtain rfl := Option.some.inj read
    simp only [Char.reduceToNat] at bounds ⊢
    omega
  split at read
  · -- A capital letter.
    next large =>
    have bounds := letter _ _ large
    obtain rfl := Option.some.inj read
    simp only [Char.reduceToNat] at bounds ⊢
    omega
  · -- No other character is a digit.
    cases read

/-- A decimal digit is a character of addresses. -/
theorem isAddressChar_of_digit (digit : isAsciiDigit c = true) : isAddressChar c = true := by
  simp [isAddressChar, hexDigitValue?, digit]

/-- A part of an address of version four has eight bits, and is written in characters of
addresses. -/
theorem of_readOctet (read : readOctet cs = some n) : n < 256 ∧
    ∀ c ∈ cs, isAddressChar c = true := by
  unfold readOctet at read
  split at read
  · -- The octet is not written with digits, or not with one to three of them.
    cases read
  next shaped =>
  split at read
  · -- It starts with a zero.
    cases read
  simp only [] at read
  split at read
  · -- It is small enough.
    next small =>
    obtain rfl := Option.some.inj read
    have digits : ∀ c ∈ cs, isAsciiDigit c = true := by
      simp only [Bool.or_eq_true, not_or, Bool.not_eq_true', Bool.not_eq_false,
        List.all_eq_true] at shaped
      exact shaped.1.2
    exact ⟨small, fun c member => isAddressChar_of_digit (digits c member)⟩
  · -- It is too large.
    cases read

/-- An address of version four has 32 bits, and is written in characters of addresses. -/
theorem of_readFour (read : readFour cs = some n) : n < 2 ^ 32 ∧
    ∀ c ∈ cs, isAddressChar c = true := by
  unfold readFour at read
  split at read
  · -- There are four octets.
    next a b c d pieces =>
    simp only [Option.bind_eq_bind, Option.bind_eq_some_iff, Option.some.injEq] at read
    obtain ⟨first, readFirst, second, readSecond, third, readThird, fourth, readFourth, rfl⟩ := read
    obtain ⟨smallFirst, writtenFirst⟩ := of_readOctet readFirst
    obtain ⟨smallSecond, writtenSecond⟩ := of_readOctet readSecond
    obtain ⟨smallThird, writtenThird⟩ := of_readOctet readThird
    obtain ⟨smallFourth, writtenFourth⟩ := of_readOctet readFourth
    refine ⟨by omega, fun e member => ?_⟩
    -- A character is a point or stands in one of the four parts.
    rcases mem_splitOn '.' member with rfl | ⟨piece, among, inside⟩
    · -- A point.
      rfl
    · -- A character of one of the octets.
      rw [pieces] at among
      simp only [List.mem_cons, List.not_mem_nil, or_false] at among
      rcases among with rfl | rfl | rfl | rfl
      · exact writtenFirst e inside
      · exact writtenSecond e inside
      · exact writtenThird e inside
      · exact writtenFourth e inside
  · -- There are more octets, or fewer.
    cases read

/-! ### Groups of sixteen bits -/

/-- A number in hexadecimal digits is read digit by digit. -/
theorem foldl_hexDigitValue? {start : Nat}
    (read : cs.foldl (fun n c => do some (16 * (← n) + (← hexDigitValue? c)))
      (some start) = some n) :
    ∃ digits : List Nat, cs.map hexDigitValue? = digits.map some ∧
      n = digits.foldl (fun n digit => 16 * n + digit) start := by
  induction cs generalizing start with
  | nil => exact ⟨[], rfl, (Option.some.inj read).symm⟩
  | cons c rest ih =>
    cases first : hexDigitValue? c with
    -- The character is a digit, and the number goes on with it.
    | some digit =>
      have behind : rest.foldl (fun n c => do some (16 * (← n) + (← hexDigitValue? c)))
          (some (16 * start + digit)) = some n := by
        rw [List.foldl_cons, first] at read
        exact read
      obtain ⟨digits, others, rfl⟩ := ih behind
      exact ⟨digit :: digits, by simp [first, others], rfl⟩
    | none =>
      -- Once a character is no digit there is no number.
      have stuck : ∀ cs : List Char,
          cs.foldl (fun n c => do some (16 * (← n) + (← hexDigitValue? c))) none = none := by
        intro cs
        induction cs with
        | nil => rfl
        | cons c rest ih => exact ih
      rw [List.foldl_cons, first] at read
      cases (stuck rest).symm.trans read

/-- A group has sixteen bits, and is written in characters of addresses. -/
theorem of_readGroup (read : readGroup cs = some n) : n < 65536 ∧
    ∀ c ∈ cs, isAddressChar c = true := by
  unfold readGroup at read
  split at read
  · -- The group is empty or too long.
    cases read
  next shaped =>
  obtain ⟨digits, each, rfl⟩ := foldl_hexDigitValue? read
  have digit : ∀ c ∈ cs, ∃ digit ∈ digits, hexDigitValue? c = some digit := by
    intro c member
    have among := List.mem_map_of_mem (f := hexDigitValue?) member
    rw [each, List.mem_map] at among
    obtain ⟨digit, listed, same⟩ := among
    exact ⟨digit, listed, same.symm⟩
  have small : ∀ digit ∈ digits, digit < 16 := by
    intro digit member
    have among := List.mem_map_of_mem (f := some) member
    rw [← each, List.mem_map] at among
    obtain ⟨c, _, same⟩ := among
    exact hexDigitValue?_lt same
  refine ⟨?_, fun c member => ?_⟩
  · -- There are four digits at most.
    have few : digits.length ≤ 4 := by
      have same := congrArg List.length each
      simp only [List.length_map] at same
      simp only [Bool.or_eq_true, decide_eq_true_eq, not_or, Nat.not_lt] at shaped
      omega
    calc digits.foldl (fun n digit => 16 * n + digit) 0
        < 16 ^ digits.length * (0 + 1) := Decimal.foldl_lt small 0
      _ ≤ 16 ^ 4 := by
        rw [Nat.zero_add, Nat.mul_one]
        exact Nat.pow_le_pow_right (by decide) few
  · -- Each character is a digit.
    obtain ⟨_, _, same⟩ := digit c member
    simp [isAddressChar, same]

/-- All groups have sixteen bits, and are written in characters of addresses. -/
theorem of_readGroups {pieces : List (List Char)} {groups : List Nat}
    (read : readGroups pieces = some groups) :
    (∀ group ∈ groups, group < 65536) ∧ ∀ piece ∈ pieces, ∀ c ∈ piece, isAddressChar c = true := by
  induction pieces generalizing groups with
  | nil =>
    obtain rfl : [] = groups := Option.some.inj read
    exact ⟨nofun, nofun⟩
  | cons piece rest ih =>
    cases rest with
    | nil =>
      -- The last group may be an address of version four, which gives two groups.
      rw [readGroups] at read
      simp only [List.forall_mem_singleton]
      split at read
      · -- An address of version four.
        obtain ⟨value, readValue, rfl⟩ := Option.map_eq_some_iff.mp read
        obtain ⟨small, written⟩ := of_readFour readValue
        refine ⟨fun group member => ?_, written⟩
        simp only [List.mem_cons, List.not_mem_nil, or_false] at member
        omega
      · -- A group.
        obtain ⟨value, readValue, rfl⟩ := Option.map_eq_some_iff.mp read
        obtain ⟨small, written⟩ := of_readGroup readValue
        exact ⟨by simpa using small, written⟩
    -- All other groups are groups only.
    | cons next more =>
      rw [readGroups] at read
      · simp only [Option.bind_eq_bind, Option.bind_eq_some_iff, Option.some.injEq] at read
        obtain ⟨value, readValue, values, readValues, rfl⟩ := read
        obtain ⟨small, written⟩ := of_readGroup readValue
        obtain ⟨others, writtenOthers⟩ := ih readValues
        exact ⟨List.forall_mem_cons.mpr ⟨small, others⟩,
          List.forall_mem_cons.mpr ⟨written, writtenOthers⟩⟩
      · exact nofun

/-- Eight groups of sixteen bits make an address of version six. -/
theorem ofGroups_lt {groups : List Nat} (small : ∀ group ∈ groups, group < 65536)
    (eight : groups.length = 8) : ofGroups groups < 2 ^ 128 := by
  have bound := Decimal.foldl_lt small 0
  rw [eight] at bound
  exact bound

/-! ### Pieces between colons -/

/-- The one empty piece stands between the pieces in front of it and those behind. -/
theorem of_splitAtGap {pieces before after : List (List Char)}
    (split : splitAtGap pieces = some (before, after)) : pieces = before ++ [] :: after := by
  induction pieces generalizing before with
  | nil => cases split
  | cons piece rest ih =>
    rw [splitAtGap] at split
    split at split
    · -- Here is the gap.
      next empty =>
      obtain rfl := List.isEmpty_iff.mp empty
      split at split
      · -- There is another gap behind it.
        cases split
      · -- It is the only one.
        obtain ⟨rfl, rfl⟩ := Prod.mk.inj (Option.some.inj split)
        rfl
    · -- The gap is further on.
      obtain ⟨⟨front, behind⟩, later, same⟩ := Option.map_eq_some_iff.mp split
      obtain ⟨rfl, rfl⟩ := Prod.mk.inj same
      rw [ih later, List.cons_append]

/-- Where colons at an end are merged, pieces that are not empty stay. -/
theorem mem_mergeEnds {pieces : List (List Char)} {piece : List Char} (member : piece ∈ pieces)
    (some : piece ≠ []) : piece ∈ mergeEnds pieces := by
  unfold mergeEnds
  extract_lets front
  have inFront : piece ∈ front := by
    unfold front
    split
    · -- The first piece has been left out, as it was empty.
      simpa [some] using member
    · -- The first piece is still there.
      exact member
  split
  · -- The last piece is empty, and left out.
    next rest behind =>
    have among : piece ∈ front.reverse := List.mem_reverse.mpr inFront
    rw [behind] at among
    simpa [some] using among
  · -- The last piece is still there.
    exact inFront

/-- An address of version six has 128 bits, and is written in characters of addresses. -/
theorem of_readSix (read : readSix cs = some n) : n < 2 ^ 128 ∧
    ∀ c ∈ cs, isAddressChar c = true := by
  unfold readSix at read
  extract_lets pieces merged at read
  -- It is enough to know the pieces that are not empty, as a colon is such a character as well.
  have join (written : ∀ piece ∈ merged, ∀ c ∈ piece, isAddressChar c = true) :
      ∀ c ∈ cs, isAddressChar c = true := by
    intro c member
    rcases mem_splitOn ':' member with rfl | ⟨piece, among, inside⟩
    · -- The colon.
      rfl
    · -- A character of a piece.
      exact written piece (mem_mergeEnds among (List.ne_nil_of_mem inside)) c inside
  split at read
  · -- There are too few colons, or a single one at an end.
    cases read
  split at read
  · -- The text is a gap alone.
    next gap =>
    obtain rfl := Option.some.inj read
    rw [beq_iff_eq] at gap
    subst gap
    exact ⟨by decide, by simp [isAddressChar]⟩
  split at read
  · -- The groups around the gap are made up to eight.
    simp only [Option.bind_eq_bind, Option.bind_eq_some_iff] at read
    obtain ⟨⟨before, after⟩, around, read⟩ := read
    simp only [] at read
    split at read
    · -- A piece in front of the gap has the form of version four.
      cases read
    simp only [Option.bind_eq_some_iff] at read
    obtain ⟨high, readHigh, low, readLow, read⟩ := read
    split at read
    · -- The groups are too many for a gap.
      cases read
    next few =>
    obtain rfl := Option.some.inj read
    obtain ⟨smallHigh, writtenHigh⟩ := of_readGroups readHigh
    obtain ⟨smallLow, writtenLow⟩ := of_readGroups readLow
    refine ⟨ofGroups_lt ?_ ?_, join ?_⟩
    · -- A group in front of the gap, in it or behind it.
      intro group member
      simp only [List.mem_append, List.mem_replicate] at member
      rcases member with (member | ⟨_, rfl⟩) | member
      · exact smallHigh group member
      · decide
      · exact smallLow group member
    · -- Together they are eight.
      simp only [List.length_append, List.length_replicate]
      omega
    · -- The pieces are those around the gap.
      rw [of_splitAtGap around]
      intro piece member
      simp only [List.mem_append, List.mem_cons] at member
      rcases member with member | rfl | member
      · exact writtenHigh piece member
      · exact nofun
      · exact writtenLow piece member
  · -- Without a gap all groups are written.
    simp only [Option.bind_eq_bind, Option.bind_eq_some_iff] at read
    obtain ⟨groups, readGroups, read⟩ := read
    split at read
    · -- There are eight of them.
      next eight =>
      obtain rfl := Option.some.inj read
      obtain ⟨small, written⟩ := of_readGroups readGroups
      exact ⟨ofGroups_lt small eight, join written⟩
    · -- There are more or fewer of them.
      cases read

/-! ### Addresses -/

/-- An address is of version four, or of version six without a zone, or of version six with a zone
behind a percent sign, and its text has no slash. -/
theorem of_read? {address : Address} (read : Address.read? cs = some address) : '/' ∉ cs ∧
    ((∃ n, readFour (trimChars cs) = some n ∧ address = ⟨.four, n, none⟩) ∨
      (∃ n, readSix (trimChars cs) = some n ∧ address = ⟨.six, n, none⟩) ∨
      ∃ front zone n, trimChars cs = front ++ '%' :: zone ∧ readSix front = some n ∧
        address = ⟨.six, n, some zone⟩) := by
  simp only [Address.read?] at read
  split at read
  · -- There is a slash.
    cases read
  next slash =>
  have apart : '/' ∉ cs := by
    -- A slash is no blank, so none is lost at the ends.
    rw [List.contains_eq_mem, decide_eq_true_eq, mem_trimChars (by decide)] at slash
    exact slash
  refine ⟨apart, ?_⟩
  split at read
  · -- The text is an address of version four.
    next n four => exact .inl ⟨n, four, (Option.some.inj read).symm⟩
  · unfold readZoned at read
    split at read
    · -- It has no zone.
      obtain ⟨n, six, rfl⟩ := Option.map_eq_some_iff.mp read
      exact .inr (.inl ⟨n, six, rfl⟩)
    · -- It has one.
      next front zone split =>
      split at read
      · -- The zone is empty, or has another percent sign.
        cases read
      obtain ⟨n, six, rfl⟩ := Option.map_eq_some_iff.mp read
      exact .inr (.inr ⟨front, zone, n, (of_splitAtFirst_eq_some split).1, six, rfl⟩)

/-- The value of an address has the bits of its version. -/
theorem Address.value_lt {address : Address} (read : Address.read? cs = some address) :
    address.value < 2 ^ address.version.bits := by
  rcases (of_read? read).2 with ⟨n, four, rfl⟩ | ⟨n, six, rfl⟩ | ⟨_, _, n, _, six, rfl⟩
  · -- The version is four.
    exact (of_readFour four).1
  · -- The version is six.
    exact (of_readSix six).1
  · -- The version is six, with a zone.
    exact (of_readSix six).1

/-- Only an address of version six has a zone. -/
theorem Address.zone_of_four {address : Address} (read : Address.read? cs = some address)
    (four : address.version = .four) : address.zone = none := by
  rcases (of_read? read).2 with ⟨_, _, rfl⟩ | ⟨_, _, rfl⟩ | ⟨_, _, _, _, _, rfl⟩
  · -- The version is four.
    rfl
  · -- There is no zone.
    rfl
  · -- The version is not four.
    cases four

/-- A character that addresses are not written with, and neither blank nor percent sign, stands in
the zone. -/
theorem Address.mem_zone {address : Address} (read : Address.read? cs = some address)
    (member : c ∈ cs)
    (visible : isBlank c = false) (other : isAddressChar c = false) (plain : c ≠ '%') :
    ∃ zone, address.zone = some zone ∧ c ∈ zone := by
  have inside : c ∈ trimChars cs := (mem_trimChars visible).mpr member
  have outside {text : List Char} (written : ∀ d ∈ text, isAddressChar d = true) : c ∉ text := by
    intro member
    rw [written c member] at other
    cases other
  rcases (of_read? read).2 with ⟨_, four, _⟩ | ⟨_, six, _⟩ | ⟨front, zone, _, parts, six, rfl⟩
  · -- The version is four.
    exact absurd inside (outside (of_readFour four).2)
  · -- There is no zone.
    exact absurd inside (outside (of_readSix six).2)
  · -- In front of the percent sign there are only characters of addresses.
    rw [parts, List.mem_append, List.mem_cons] at inside
    exact ⟨zone, rfl, (inside.resolve_left (outside (of_readSix six).2)).resolve_left plain⟩

end AccessControl.Network
