/-! Double-precision numbers as exact values: rounding to the nearest, and comparison without
rounding. -/

namespace AccessControl

/-- A double-precision number; a finite one is its significand times two to its exponent. A nan has
a mark that tells where it comes from. -/
inductive Double
  | nan (mark : Nat)
  | infinite (negative : Bool)
  | finite (negative : Bool) (significand : Nat) (exponent : Int)
deriving Repr, DecidableEq

namespace Double

/-- The exponent of the smallest positive double. -/
def leastExponent : Int := -1074

/-- The largest exponent that a full significand can have. -/
def greatestExponent : Int := 971

/-- The number of binary digits of a full significand. -/
def precision : Nat := 53

/-- The zero with the given sign. -/
def zero (negative : Bool) : Double :=
  .finite negative 0 leastExponent

/-- The numerator and denominator of `n / d` after division by two to the power `e`. -/
def scaled (n d : Nat) (e : Int) : Nat × Nat :=
  if 0 ≤ e then (n, d * Nat.pow 2 e.toNat) else (n * Nat.pow 2 (-e).toNat, d)

/-- The whole number nearest to `n / d`, where a half goes to the even neighbour. -/
def roundRatio (n d : Nat) : Nat :=
  let quotient := n / d
  let twice := 2 * (n % d)
  if twice < d then quotient
  else if d < twice then quotient + 1
  else if quotient % 2 == 0 then quotient else quotient + 1

/-- The exponent at which the positive ratio `n / d` fills a significand, bounded below. -/
def ratioExponent (n d : Nat) : Int :=
  -- The ratio lies strictly between two to the powers `size - 1` and `size + 1`.
  let size : Int := (Nat.log2 n : Int) - Nat.log2 d
  let e := max (size - precision) leastExponent
  let parts := scaled n d e
  if parts.1 / parts.2 < Nat.pow 2 precision then e else e + 1

/-- The double nearest to the ratio `n / d`, where a half goes to the even significand. -/
def ofRatio (negative : Bool) (n d : Nat) : Double :=
  if n = 0 then zero negative
  else
    let e := ratioExponent n d
    let parts := scaled n d e
    let rounded := roundRatio parts.1 parts.2
    -- Rounding up may fill one more binary digit.
    let carried := rounded == Nat.pow 2 precision
    let significand := if carried then Nat.pow 2 (precision - 1) else rounded
    let exponent := if carried then e + 1 else e
    if greatestExponent < exponent then .infinite negative
    else .finite negative significand exponent

/-- The double nearest to a whole number, unless the number is beyond the finite doubles. -/
def ofInt? (i : Int) : Option Double :=
  match ofRatio (i < 0) i.natAbs 1 with
  | .infinite _ => none
  | double => some double

/-- The double nearest to `digits · 10 ^ exponent`, where `count` is the number of the digits. -/
def ofDecimal (negative : Bool) (digits : Nat) (count : Nat) (exponent : Int) : Double :=
  -- At least `10 ^ 310` is beyond the finite doubles, and below `10 ^ (-330)` all rounds to zero.
  if digits = 0 then zero negative
  else if 310 < count + exponent then .infinite negative
  else if count + exponent < -330 then zero negative
  else if 0 ≤ exponent then ofRatio negative (digits * Nat.pow 10 exponent.toNat) 1
  else ofRatio negative digits (Nat.pow 10 (-exponent).toNat)

/-- A signed whole number times two to a power. -/
structure Dyadic where
  whole : Int
  exponent : Int

/-- The exact order of two dyadic numbers. -/
def Dyadic.compare (a b : Dyadic) : Ordering :=
  let least := min a.exponent b.exponent
  Ord.compare (a.whole * Nat.pow 2 (a.exponent - least).toNat)
    (b.whole * Nat.pow 2 (b.exponent - least).toNat)

/-- A finite double or whole number as a dyadic number. -/
def signed (negative : Bool) (significand : Nat) : Int :=
  if negative then -(significand : Int) else significand

/-- The exact order of two doubles; a nan has no order with anything. -/
def compare? : Double → Double → Option Ordering
  | .nan _, _ | _, .nan _ => none
  | .infinite a, .infinite b => some (if a == b then .eq else if a then .lt else .gt)
  | .infinite a, .finite .. => some (if a then .lt else .gt)
  | .finite .., .infinite b => some (if b then .gt else .lt)
  | .finite a m e, .finite b n f => some (Dyadic.compare ⟨signed a m, e⟩ ⟨signed b n, f⟩)

/-- The exact order of a whole number and a double, without rounding the whole number. -/
def compareInt? (i : Int) : Double → Option Ordering
  | .nan _ => none
  | .infinite b => some (if b then .gt else .lt)
  | .finite b n f => some (Dyadic.compare ⟨i, 0⟩ ⟨signed b n, f⟩)

/-- The doubles have one value; the two zeros do, and a nan has none. -/
def equal (a b : Double) : Bool :=
  compare? a b == some .eq

/-- The first double is the smaller one. -/
def less (a b : Double) : Bool :=
  compare? a b == some .lt

/-- The double is not zero; a nan is not. -/
def isNonzero : Double → Bool
  | .finite _ m _ => m != 0
  | _ => true

end Double

end AccessControl
