import AccessControl.Decimal.Double
import Mathlib.Algebra.Order.Ring.Int
import Mathlib.Tactic.Linarith
import Mathlib.Tactic.Ring

/-! Whole numbers among the doubles: each becomes the nearest whole number that a double has as its
value, and doubles of whole numbers have the order of these. -/

namespace AccessControl.Double

/-! ### The nearest multiple -/

/-- A ratio lies within a half of the whole number to which it is rounded. -/
theorem roundRatio_error (n : Nat) {d : Nat} (positive : 0 < d) :
    2 * n ≤ 2 * (roundRatio n d * d) + d ∧ 2 * (roundRatio n d * d) ≤ 2 * n + d := by
  have split := Nat.div_add_mod n d
  have small := Nat.mod_lt n positive
  -- Rounding adds at most one to the quotient, and one more divisor to its product.
  have next : (n / d + 1) * d = d * (n / d) + d := by ring
  have same : n / d * d = d * (n / d) := Nat.mul_comm ..
  simp only [roundRatio]
  split_ifs <;> simp only [next, same] <;> omega

/-- A multiple of the divisor is rounded to its factor. -/
theorem roundRatio_mul (k : Nat) {d : Nat} (positive : 0 < d) : roundRatio (k * d) d = k := by
  simp [roundRatio, positive]

/-- Rounding keeps the order. -/
theorem roundRatio_mono {n m : Nat} (d : Nat) (below : n ≤ m) :
    roundRatio n d ≤ roundRatio m d := by
  rcases Nat.lt_or_eq_of_le (@Nat.div_le_div_right _ _ d below) with apart | same
  · -- Between two quotients there is room for the one that rounding may add.
    have upper : roundRatio n d ≤ n / d + 1 := by simp only [roundRatio]; split_ifs <;> omega
    have lower : m / d ≤ roundRatio m d := by simp only [roundRatio]; split_ifs <;> omega
    omega
  · -- With one quotient the remainders decide, which are in the same order.
    have rest : n % d ≤ m % d := by
      have left := Nat.div_add_mod n d
      have right := Nat.div_add_mod m d
      rw [same] at left
      omega
    simp only [roundRatio, same]
    split_ifs <;> omega

/-! ### Natural numbers -/

/-- How far apart the values of doubles are at a natural number; below `2 ^ 53` they leave out
none. -/
def gap (n : Nat) : Nat := 2 ^ (n.log2 - 52)

/-- The value of the double nearest to a natural number, and of the even one of two. -/
def roundedNat (n : Nat) : Nat := roundRatio n (gap n) * gap n

theorem gap_pos (n : Nat) : 0 < gap n := Nat.two_pow_pos _

/-- The powers of two around a large number are multiples of the gap there. -/
theorem pow_eq_mul_gap {n : Nat} (long : 52 ≤ n.log2) :
    2 ^ n.log2 = 2 ^ 52 * gap n ∧ 2 ^ (n.log2 + 1) = 2 ^ 53 * gap n := by
  constructor <;>
  · rw [gap, ← Nat.pow_add]
    congr 1
    omega

/-- No number is left out where a significand holds all its digits. -/
theorem gap_eq_one {n : Nat} (short : n.log2 ≤ 52) : gap n = 1 := by
  rw [gap, Nat.sub_eq_zero_of_le short, Nat.pow_zero]

/-- A number all of whose digits a significand holds stays what it is. -/
theorem roundedNat_short {n : Nat} (short : n.log2 ≤ 52) : roundedNat n = n := by
  have whole := roundRatio_mul n Nat.one_pos
  rw [Nat.mul_one] at whole
  rw [roundedNat, gap_eq_one short, whole, Nat.mul_one]

/-- Below `2 ^ 53` a number stays what it is. -/
theorem roundedNat_small {n : Nat} (small : n < 2 ^ 53) : roundedNat n = n := by
  by_cases zero : n = 0
  · -- Nothing is its own.
    rw [zero]
    rfl
  · -- A small number has few digits, and none is lost.
    exact roundedNat_short (Nat.lt_succ_iff.mp ((Nat.log2_lt zero).mpr small))

/-- A number of `53` binary digits or more has a gap of its own. -/
theorem log2_of_large {n : Nat} (large : ¬ n < 2 ^ 53) : n ≠ 0 ∧ 53 ≤ n.log2 := by
  have positive : n ≠ 0 := by omega
  exact ⟨positive, (Nat.le_log2 positive).mpr (by omega)⟩

/-- Rounding stays between the powers of two around a number. -/
theorem roundedNat_bounds {n : Nat} (positive : n ≠ 0) :
    2 ^ n.log2 ≤ roundedNat n ∧ roundedNat n ≤ 2 ^ (n.log2 + 1) := by
  have least := Nat.log2_self_le positive
  have most := @Nat.lt_log2_self n
  -- A small number is not rounded.
  by_cases small : n < 2 ^ 53
  · rw [roundedNat_small small]
    omega
  · -- As multiples of the gap the two powers are rounded to themselves.
    obtain ⟨lower, upper⟩ := @pow_eq_mul_gap n (by have := log2_of_large small; omega)
    have above := roundRatio_mono (gap n) least
    have below := roundRatio_mono (gap n) (Nat.le_of_lt most)
    rw [lower, roundRatio_mul _ (gap_pos n)] at above
    rw [upper, roundRatio_mul _ (gap_pos n)] at below
    rw [lower, upper]
    exact ⟨Nat.mul_le_mul_right _ above, Nat.mul_le_mul_right _ below⟩

/-- Rounding keeps the order. -/
theorem roundedNat_mono {n m : Nat} (below : n ≤ m) : roundedNat n ≤ roundedNat m := by
  by_cases zero : n = 0
  · simp [zero, roundedNat, gap, roundRatio]
  have positive : m ≠ 0 := by omega
  have ordered : n.log2 ≤ m.log2 :=
    (Nat.le_log2 positive).mpr (Nat.le_trans (Nat.log2_self_le zero) below)
  rcases Nat.lt_or_eq_of_le ordered with apart | same
  · -- A power of two lies between the two numbers, and still does after rounding.
    calc roundedNat n ≤ 2 ^ (n.log2 + 1) := (roundedNat_bounds zero).2
      _ ≤ 2 ^ m.log2 := Nat.pow_le_pow_right (by decide) apart
      _ ≤ roundedNat m := (roundedNat_bounds positive).1
  · -- Both numbers have the same gap.
    have sameGap : gap n = gap m := by rw [gap, gap, same]
    rw [roundedNat, roundedNat, sameGap]
    exact Nat.mul_le_mul_right _ (roundRatio_mono _ below)

/-- The natural number has at most `53` binary digits before its last zeros, or is a power of two:
up to the size of the greatest double these are the values of doubles. -/
def IsExact (n : Nat) : Prop :=
  ∃ significand exponent, significand ≤ 2 ^ 53 ∧ n = significand * 2 ^ exponent

/-- No multiple of the gap is nearer to a number than the one to which it is rounded. -/
theorem roundedNat_nearest_multiple (n factor : Nat) :
    ((roundedNat n : Int) - n).natAbs ≤ (((factor * gap n : Nat) : Int) - n).natAbs := by
  obtain ⟨upper, lower⟩ := roundRatio_error n (gap_pos n)
  have positive := gap_pos n
  rw [roundedNat]
  generalize roundRatio n (gap n) = nearest at *
  generalize gap n = unit at *
  rcases Nat.lt_trichotomy factor nearest with less | rfl | more
  · -- Another multiple is at least a whole gap away from the nearest one.
    have apart : (factor + 1) * unit ≤ nearest * unit := Nat.mul_le_mul_right _ less
    rw [Nat.add_mul] at apart
    omega
  · -- It is the nearest one itself.
    exact le_rfl
  · -- On the other side it is a whole gap away as well.
    have apart : (nearest + 1) * unit ≤ factor * unit := Nat.mul_le_mul_right _ more
    rw [Nat.add_mul] at apart
    omega

/-- No value of a double is nearer to a number than the one to which it is rounded. -/
theorem roundedNat_nearest {k : Nat} (exact : IsExact k) (n : Nat) :
    ((roundedNat n : Int) - n).natAbs ≤ ((k : Int) - n).natAbs := by
  obtain ⟨significand, exponent, bounded, rfl⟩ := exact
  by_cases small : n < 2 ^ 53
  · -- A small number is not rounded, and no value is nearer than itself.
    simp [roundedNat_small small]
  obtain ⟨positive, long⟩ := log2_of_large small
  by_cases fine : exponent < n.log2 - 52
  · -- With a finer unit the value is at most the power of two below the number, which is a multiple.
    have power := roundedNat_nearest_multiple n (2 ^ 52)
    rw [← (pow_eq_mul_gap (by omega)).1] at power
    have least := Nat.log2_self_le positive
    have below : significand * 2 ^ exponent ≤ 2 ^ n.log2 := by
      calc significand * 2 ^ exponent ≤ 2 ^ 53 * 2 ^ (n.log2 - 53) :=
            Nat.mul_le_mul bounded (Nat.pow_le_pow_right (by decide) (by omega))
        _ = 2 ^ n.log2 := by rw [← Nat.pow_add, Nat.add_sub_cancel' long]
    omega
  · -- Otherwise the value is a multiple of the gap itself.
    have multiple : significand * 2 ^ exponent =
        significand * 2 ^ (exponent - (n.log2 - 52)) * gap n := by
      rw [gap, Nat.mul_assoc, ← Nat.pow_add]
      congr 2
      omega
    rw [multiple]
    exact roundedNat_nearest_multiple n _

/-! ### Whole numbers -/

/-- The value of the double nearest to a whole number, and of the even one of two. -/
def rounded (i : Int) : Int := signed (i < 0) (roundedNat i.natAbs)

/-- Rounding leaves the sign as it is. -/
theorem rounded_eq (i : Int) :
    rounded i = if i < 0 then -(roundedNat i.natAbs : Int) else roundedNat i.natAbs := by
  simp [rounded, signed]

/-- Rounding keeps the order. -/
theorem rounded_mono {i j : Int} (below : i ≤ j) : rounded i ≤ rounded j := by
  rw [rounded_eq, rounded_eq]
  split_ifs with negative other other
  · -- Of two negative numbers the lesser one is the greater in size.
    have sizes := roundedNat_mono (show j.natAbs ≤ i.natAbs by omega)
    omega
  · -- A negative number stays below the others.
    omega
  · -- This order cannot be.
    omega
  · -- Of two other numbers the sizes are ordered as they are.
    have sizes := roundedNat_mono (show i.natAbs ≤ j.natAbs by omega)
    omega

/-- Numbers that are not rounded to one value keep their order. -/
theorem rounded_le_iff {i j : Int} (apart : rounded i = rounded j → i = j) :
    rounded i ≤ rounded j ↔ i ≤ j := by
  refine ⟨fun below => ?_, rounded_mono⟩
  by_contra above
  have same := apart (Int.le_antisymm below (rounded_mono (by omega)))
  omega

/-- No value of a double is nearer to a whole number than the one to which it is rounded. -/
theorem rounded_nearest {k : Int} (exact : IsExact k.natAbs) (i : Int) :
    (rounded i - i).natAbs ≤ (k - i).natAbs := by
  have size := roundedNat_nearest exact i.natAbs
  have zero := @roundedNat_nearest 0 ⟨0, 0, by simp⟩ i.natAbs
  -- A value of the other sign is further away than zero.
  rw [rounded_eq]
  split_ifs <;> omega

/-- A whole number is the only one that is rounded to a value less than `2 ^ 53` in size. -/
theorem eq_of_rounded_eq {i j : Int} (same : rounded i = rounded j)
    (small : i.natAbs < 2 ^ 53 ∨ j.natAbs < 2 ^ 53) : i = j := by
  have sizes : roundedNat i.natAbs = roundedNat j.natAbs := by
    rw [rounded_eq, rounded_eq] at same
    split_ifs at same <;> omega
  -- A number that is not small is rounded to no less than the power of two below it.
  have large : ∀ n : Nat, ¬ n < 2 ^ 53 → 2 ^ 53 ≤ roundedNat n := by
    intro n notSmall
    obtain ⟨positive, long⟩ := log2_of_large notSmall
    exact Nat.le_trans (Nat.pow_le_pow_right (by decide) long) (roundedNat_bounds positive).1
  have equal : i.natAbs = j.natAbs := by
    by_cases left : i.natAbs < 2 ^ 53 <;> by_cases right : j.natAbs < 2 ^ 53
    · -- Both numbers are small, and not rounded.
      rwa [roundedNat_small left, roundedNat_small right] at sizes
    · -- The second number is rounded to something large.
      have far := large _ right
      rw [roundedNat_small left] at sizes
      omega
    · -- So is the first one.
      have far := large _ left
      rw [roundedNat_small right] at sizes
      omega
    · -- At least one of them is small.
      omega
  rw [rounded_eq, rounded_eq, equal] at same
  -- Nothing but zero is rounded to zero, so the signs are the same.
  have positive : i ≠ 0 → roundedNat j.natAbs ≠ 0 := by
    intro nonzero
    have bounds := @roundedNat_bounds j.natAbs (by omega)
    have power := Nat.two_pow_pos j.natAbs.log2
    omega
  split_ifs at same <;> omega

/-! ### Doubles of whole numbers -/

/-- The least size of a whole number that is beyond the finite doubles. -/
def limit : Nat := 2 ^ 1024 - 2 ^ 970

/-- The double has the whole number as its value. -/
def HasValue (x : Double) (i : Int) : Prop :=
  ∃ negative significand exponent, x = .finite negative significand exponent ∧
    signed negative significand * 2 ^ exponent.toNat = i * 2 ^ (-exponent).toNat

/-- The significand of a whole number has one digit for each from the highest down to the gap. -/
theorem ratioExponent_whole {n : Nat} (positive : n ≠ 0) :
    ratioExponent n 1 = (n.log2 : Int) - 52 := by
  have least := Nat.log2_self_le positive
  have most := @Nat.lt_log2_self n
  -- The first try has one digit too many.
  have full : 2 ^ 53 ≤ (scaled n 1 ((n.log2 : Int) - 53)).1 /
      (scaled n 1 ((n.log2 : Int) - 53)).2 := by
    simp only [scaled]
    split_ifs with long
    · -- The number is divided by a power of two.
      have power : 2 ^ n.log2 = 2 ^ 53 * 2 ^ ((n.log2 : Int) - 53).toNat := by
        rw [← Nat.pow_add]
        congr 1
        omega
      rw [Nat.le_div_iff_mul_le (by simp)]
      simp only [Nat.pow_eq, one_mul]
      omega
    · -- The number is multiplied by a power of two.
      have power : 2 ^ 53 = 2 ^ n.log2 * 2 ^ (-((n.log2 : Int) - 53)).toNat := by
        rw [← Nat.pow_add]
        congr 1
        omega
      rw [Nat.div_one, power]
      exact Nat.mul_le_mul_right _ least
  have one : Nat.log2 1 = 0 := by decide
  have first : max ((n.log2 : Int) - 53) leastExponent = (n.log2 : Int) - 53 := by
    rw [leastExponent]
    omega
  simp only [ratioExponent, one, precision, Nat.cast_zero, sub_zero, Nat.cast_ofNat,
    first, Nat.pow_eq]
  rw [if_neg (by omega)]
  omega

/-- The significand to which a natural number is rounded, with all its digits. -/
def significandOf (n : Nat) : Nat := roundRatio (n * 2 ^ (52 - n.log2)) (gap n)

/-- The significand counts the gaps of the rounded number, or smaller units where it has few
digits. -/
theorem significandOf_mul_gap (n : Nat) :
    significandOf n * gap n = roundedNat n * 2 ^ (52 - n.log2) := by
  by_cases short : n.log2 ≤ 52
  · -- Nothing is lost of a short number.
    have whole := roundRatio_mul (n * 2 ^ (52 - n.log2)) Nat.one_pos
    rw [Nat.mul_one] at whole
    rw [significandOf, gap_eq_one short, whole, roundedNat_short short, Nat.mul_one]
  · -- Of a long number the significand counts the gaps.
    rw [significandOf, roundedNat, Nat.sub_eq_zero_of_le (by omega), Nat.pow_zero, Nat.mul_one,
      Nat.mul_one]

/-- The significand has `53` digits, or is the first number with one more. -/
theorem significandOf_bounds {n : Nat} (positive : n ≠ 0) :
    2 ^ 52 ≤ significandOf n ∧ significandOf n ≤ 2 ^ 53 := by
  have value := significandOf_mul_gap n
  obtain ⟨least, most⟩ := roundedNat_bounds positive
  have unit := gap_pos n
  have lower : 2 ^ 52 * gap n = 2 ^ n.log2 * 2 ^ (52 - n.log2) := by
    rw [gap, ← Nat.pow_add, ← Nat.pow_add]
    congr 1
    omega
  have upper : 2 ^ 53 * gap n = 2 ^ (n.log2 + 1) * 2 ^ (52 - n.log2) := by
    rw [gap, ← Nat.pow_add, ← Nat.pow_add]
    congr 1
    omega
  constructor
  · -- The power of two below the number has as many gaps.
    refine Nat.le_of_mul_le_mul_right ?_ unit
    rw [value, lower]
    exact Nat.mul_le_mul_right _ least
  · -- And so has the power above it.
    refine Nat.le_of_mul_le_mul_right ?_ unit
    rw [value, upper]
    exact Nat.mul_le_mul_right _ most

/-- Only a number with more digits than a significand is rounded up to one digit too many. -/
theorem long_of_carried {n : Nat} (carried : significandOf n = 2 ^ 53) : 52 ≤ n.log2 := by
  by_contra short
  have value := significandOf_mul_gap n
  rw [carried, gap_eq_one (by omega), roundedNat_short (by omega), Nat.mul_one] at value
  have most : n * 2 ^ (52 - n.log2) < 2 ^ (n.log2 + 1) * 2 ^ (52 - n.log2) :=
    Nat.mul_lt_mul_of_pos_right Nat.lt_log2_self (Nat.two_pow_pos _)
  rw [← value, ← Nat.pow_add, show n.log2 + 1 + (52 - n.log2) = 53 by omega] at most
  exact Nat.lt_irrefl _ most

/-- A natural number as a double: one digit too many in the significand goes over into the
exponent. -/
theorem ofRatio_whole (negative : Bool) {n : Nat} (positive : n ≠ 0) :
    ofRatio negative n 1 =
      if significandOf n = 2 ^ 53 then
        if 1022 < n.log2 then .infinite negative
        else .finite negative (2 ^ 52) ((n.log2 : Int) - 51)
      else
        if 1023 < n.log2 then .infinite negative
        else .finite negative (significandOf n) ((n.log2 : Int) - 52) := by
  have parts : scaled n 1 ((n.log2 : Int) - 52) = (n * 2 ^ (52 - n.log2), gap n) := by
    simp only [scaled, gap, Nat.pow_eq]
    split_ifs with long
    · -- There are more digits than fit, so nothing is added.
      have few : 52 - n.log2 = 0 := by omega
      have many : ((n.log2 : Int) - 52).toNat = n.log2 - 52 := by omega
      simp [few, many]
    · -- There are fewer, so nothing is divided.
      have many : n.log2 - 52 = 0 := by omega
      simp [many]
  have digits : roundRatio (n * 2 ^ (52 - n.log2)) (gap n) = significandOf n := rfl
  simp only [ofRatio, if_neg positive, ratioExponent_whole positive, parts, digits,
    precision, Nat.pow_eq, beq_iff_eq, greatestExponent]
  by_cases carried : significandOf n = 2 ^ 53
  · -- Rounded up, the significand has a digit too many, and the exponent is raised.
    have next : (n.log2 : Int) - 52 + 1 = (n.log2 : Int) - 51 := by omega
    have large : (971 : Int) < (n.log2 : Int) - 51 ↔ 1022 < n.log2 := by omega
    simp only [carried, if_true, next, large]
  · -- The significand fits.
    have large : (971 : Int) < (n.log2 : Int) - 52 ↔ 1023 < n.log2 := by omega
    simp only [carried, if_false, large]

/-- The limit lies half a gap below a power of two, and is rounded up to it. -/
theorem roundRatio_limit : roundRatio limit (2 * 2 ^ 970) = 2 ^ 53 := by decide +kernel

/-- The limit in units of half a gap. -/
theorem limit_eq : limit = (2 ^ 54 - 1) * 2 ^ 970 := by decide +kernel

/-- What is rounded up to a power of two lies at most half a gap below it. -/
theorem le_of_carried {n unit : Nat} (carried : roundRatio n (2 * unit) = 2 ^ 53) :
    (2 ^ 54 - 1) * unit ≤ n := by
  rcases Nat.eq_zero_or_pos unit with rfl | positive
  · -- Without a unit there is nothing to reach.
    simp
  · -- Rounded up to the power, the number misses it by a half at most.
    have error := (@roundRatio_error n (2 * unit) (by omega)).2
    rw [carried] at error
    omega

/-- Which natural numbers are beyond the finite doubles shows in the digits of their
significands. -/
theorem beyond_iff {n : Nat} (positive : n ≠ 0) :
    limit ≤ n ↔ if significandOf n = 2 ^ 53 then 1022 < n.log2 else 1023 < n.log2 := by
  rcases Nat.lt_trichotomy n.log2 1023 with low | middle | high
  · -- The number has fewer digits than the limit.
    -- The number is smaller than a power of two below the limit.
    have below : n < limit := by
      calc n < 2 ^ (n.log2 + 1) := Nat.lt_log2_self
        _ ≤ 2 ^ 1023 := Nat.pow_le_pow_right (by decide) low
        _ ≤ limit := by decide +kernel
    split_ifs <;> omega
  · -- It has as many: what decides is whether it is rounded up to the power that is too large.
    have unit : gap n = 2 * 2 ^ 970 := by
      rw [gap, middle, ← Nat.pow_succ']
    have digits : significandOf n = roundRatio n (2 * 2 ^ 970) := by
      rw [significandOf, middle, unit, Nat.sub_eq_zero_of_le (by decide), Nat.pow_zero,
        Nat.mul_one n]
    have most := (significandOf_bounds positive).2
    have beyond : limit ≤ n ↔ significandOf n = 2 ^ 53 := by
      constructor
      · -- From the limit on all are rounded up to the power.
        intro above
        have mono := roundRatio_mono (2 * 2 ^ 970) above
        rw [roundRatio_limit, ← digits] at mono
        exact Nat.le_antisymm most mono
      · -- What is rounded up so is at least the limit.
        intro carried
        rw [digits] at carried
        rw [limit_eq]
        exact le_of_carried carried
    rw [beyond, middle]
    by_cases carried : significandOf n = 2 ^ 53 <;>
      simp only [carried, if_true, if_false] <;> decide
  · -- It has more.
    have above : limit ≤ n := by
      calc limit ≤ 2 ^ 1024 := by decide +kernel
        _ ≤ 2 ^ n.log2 := Nat.pow_le_pow_right (by decide) high
        _ ≤ n := Nat.log2_self_le positive
    split_ifs <;> omega

/-- A whole number beyond the finite doubles has no double. -/
theorem ofInt?_eq_none {i : Int} (beyond : limit ≤ i.natAbs) : ofInt? i = none := by
  have positive : i.natAbs ≠ 0 := by
    intro zero
    rw [zero] at beyond
    exact absurd beyond (by decide +kernel)
  have large := (beyond_iff positive).mp beyond
  rw [ofInt?, ofRatio_whole _ positive]
  split_ifs at large ⊢ <;> rfl

/-- A significand and an exponent of an integer have the value of the integer with its sign. -/
theorem hasValue_finite {negative : Bool} {significand n : Nat} {exponent : Int}
    (value : significand * 2 ^ exponent.toNat = n * 2 ^ (-exponent).toNat) :
    HasValue (.finite negative significand exponent) (signed negative n) := by
  refine ⟨negative, significand, exponent, rfl, ?_⟩
  have integers : (significand : Int) * 2 ^ exponent.toNat = n * 2 ^ (-exponent).toNat := by
    exact_mod_cast value
  cases negative <;> simp [signed, integers]

/-- Any other whole number has one, whose value is that to which it is rounded. -/
theorem ofInt?_hasValue {i : Int} (within : i.natAbs < limit) :
    ∃ x, ofInt? i = some x ∧ x.HasValue (rounded i) := by
  -- Zero has the value zero.
  by_cases none : i = 0
  · subst none
    exact ⟨zero false, rfl, hasValue_finite (by simp [roundedNat_small])⟩
  have positive : i.natAbs ≠ 0 := Int.natAbs_ne_zero.mpr none
  have fits := (beyond_iff positive).not.mp (Nat.not_le.mpr within)
  have value := significandOf_mul_gap i.natAbs
  rw [ofInt?, ofRatio_whole _ positive]
  rw [gap] at value
  split_ifs at fits ⊢ with carried
  · -- The significand is carried, and the exponent is raised.
    have long := long_of_carried carried
    refine ⟨_, rfl, hasValue_finite ?_⟩
    have up : ((i.natAbs.log2 : Int) - 51).toNat = i.natAbs.log2 - 52 + 1 := by omega
    have down : (-((i.natAbs.log2 : Int) - 51)).toNat = 0 := by omega
    rw [carried, Nat.sub_eq_zero_of_le long] at value
    rw [up, down, ← value, Nat.pow_succ]
    ring
  · -- The value is that of the significand and its exponent.
    refine ⟨_, rfl, hasValue_finite ?_⟩
    have up : ((i.natAbs.log2 : Int) - 52).toNat = i.natAbs.log2 - 52 := by omega
    have down : (-((i.natAbs.log2 : Int) - 52)).toNat = 52 - i.natAbs.log2 := by omega
    rw [up, down, value]

/-! ### Order -/

/-- A positive factor leaves the order of whole numbers as it is. -/
theorem compare_mul {a b c : Int} (positive : 0 < c) : compare (a * c) (b * c) = compare a b := by
  have less : a * c < b * c ↔ a < b := Int.mul_lt_mul_right positive
  have same : a * c = b * c ↔ a = b := Int.mul_eq_mul_right_iff positive.ne'
  simp only [compare, compareOfLessAndEq, less, same]

/-- In the smaller of two units the value of a double is a whole number of times the value in
any. -/
theorem scaled_value {whole value exponent least : Int} (small : least ≤ exponent)
    (equal : whole * 2 ^ exponent.toNat = value * 2 ^ (-exponent).toNat) :
    whole * 2 ^ (exponent - least).toNat * 2 ^ least.toNat = value * 2 ^ (-least).toNat := by
  rw [mul_assoc, ← pow_add]
  rcases Int.le_total 0 exponent with up | down
  · -- The exponent is not negative, so the value is an integer.
    have powers : (exponent - least).toNat + least.toNat =
      exponent.toNat + (-least).toNat := by omega
    have none : (-exponent).toNat = 0 := by omega
    rw [none, pow_zero, mul_one] at equal
    rw [powers, pow_add, ← mul_assoc, equal]
  · -- The exponent is negative, and so is the least one.
    have powers : (exponent - least).toNat + least.toNat = (exponent - least).toNat := by omega
    have none : exponent.toNat = 0 := by omega
    have more : (-least).toNat = (-exponent).toNat + (exponent - least).toNat := by omega
    rw [none, pow_zero, mul_one] at equal
    rw [powers, equal, more, pow_add, mul_assoc]

/-- Doubles whose values are whole numbers have the order of these. -/
theorem compare?_of_hasValue {x y : Double} {i j : Int} (left : x.HasValue i)
    (right : y.HasValue j) : compare? x y = some (compare i j) := by
  obtain ⟨a, m, e, rfl, left⟩ := left
  obtain ⟨b, n, f, rfl, right⟩ := right
  have scaledLeft := scaled_value (min_le_left e f) left
  have scaledRight := scaled_value (min_le_right e f) right
  simp only [compare?, Dyadic.compare, Option.some.injEq, Nat.pow_eq, Nat.cast_pow, Nat.cast_ofNat]
  rw [← compare_mul (show (0 : Int) < 2 ^ (min e f).toNat by positivity), scaledLeft, scaledRight,
    compare_mul (by positivity)]

end AccessControl.Double
