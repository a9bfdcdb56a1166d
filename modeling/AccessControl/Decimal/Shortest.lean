import AccessControl.Decimal.Double

/-! The shortest decimal text that reads back as a given double. -/

namespace AccessControl

namespace Double

/-- The ratio of two natural numbers lies below ten to the power `p`. -/
def ratioBelowPower (n d : Nat) (p : Int) : Bool :=
  if 0 ≤ p then n < d * Nat.pow 10 p.toNat else n * Nat.pow 10 (-p).toNat < d

/-- The least power of ten above the positive ratio `n / d`. -/
def decimalMagnitude (n d : Nat) : Int :=
  -- Two to the power `size - 1` is below the ratio, and 0.30103 is the logarithm of two.
  let size : Int := (Nat.log2 n : Int) - Nat.log2 d
  let start := Int.fdiv ((size - 1) * 30103) 100000
  (((List.range 5).map fun step => start + Int.ofNat step).find? (ratioBelowPower n d)).getD start

/-- The reals that round to a double: its bounds and its value as numerators over one
denominator. -/
structure Interval where
  low : Nat
  value : Nat
  high : Nat
  denominator : Nat
  closed : Bool

/-- The reals that round to a positive double; the ends belong to it if the significand is even. -/
def interval (significand : Nat) (exponent : Int) : Interval :=
  let unit := Nat.pow 2 exponent.toNat
  let denominator := if 0 ≤ exponent then 4 else 4 * Nat.pow 2 (-exponent).toNat
  -- Below a power of two the grid of doubles is twice as fine.
  let below := if significand == Nat.pow 2 (precision - 1) && leastExponent < exponent then 1 else 2
  { low := (4 * significand - below) * unit
    value := 4 * significand * unit
    high := (4 * significand + 2) * unit
    denominator := denominator
    closed := significand % 2 == 0 }

/-- The grid point `k · 10 ^ e` rounds to the double. -/
def Interval.holds (i : Interval) (k : Nat) (e : Int) : Bool :=
  let point := if 0 ≤ e then k * Nat.pow 10 e.toNat * i.denominator else k * i.denominator
  let scale := if 0 ≤ e then 1 else Nat.pow 10 (-e).toNat
  if i.closed then i.low * scale ≤ point && point ≤ i.high * scale
  else i.low * scale < point && point < i.high * scale

/-- The neighbours of the value on the grid of step `10 ^ e`, and whether the upper one is
nearer. -/
def Interval.neighbours (i : Interval) (e : Int) : Nat × Bool :=
  let n := if 0 ≤ e then i.value else i.value * Nat.pow 10 (-e).toNat
  let d := if 0 ≤ e then i.denominator * Nat.pow 10 e.toNat else i.denominator
  let lower := n / d
  let twice := 2 * (n % d)
  (lower, d < twice || (twice == d && lower % 2 == 1))

/-- A point of the grid of step `10 ^ e` that rounds to the double, the nearer one of two. -/
def Interval.pick? (i : Interval) (e : Int) : Option Nat :=
  let (lower, upward) := i.neighbours e
  let first := if upward then lower + 1 else lower
  let second := if upward then lower else lower + 1
  if i.holds first e then some first
  else if i.holds second e then some second
  else none

/-- A whole number without its trailing zeros, and how many there were. -/
def dropZeros : Nat → Nat → Nat × Nat
  | 0, k => (k, 0)
  | fuel + 1, k =>
    if k % 10 == 0 && k != 0 then
      let (rest, zeros) := dropZeros fuel (k / 10)
      (rest, zeros + 1)
    else (k, 0)

/-- The fewest digits, and the power of ten of the last, that read back as the positive double. -/
def shortest (significand : Nat) (exponent : Int) : Nat × Int :=
  let i := interval significand exponent
  let magnitude := decimalMagnitude i.value i.denominator
  let found := (List.range 17).findSome? fun fewer =>
    let e := magnitude - Int.ofNat (fewer + 1)
    (i.pick? e).map fun k => (k, e)
  let (k, e) := found.getD (0, 0)
  let (digits, zeros) := dropZeros 20 k
  (digits, e + zeros)

/-- The decimal digits of a natural number. -/
def digitChars (n : Nat) : List Char :=
  (Nat.toDigits 10 n)

/-- Digits with a power of ten for the last one, positional between `10 ^ (-5)` and `10 ^ 16`. -/
def layout (digits : List Char) (exponent : Int) : List Char :=
  let count : Int := digits.length
  let point := count + exponent
  if -4 < point && point ≤ 16 then
    if exponent ≥ 0 then digits ++ List.replicate exponent.toNat '0' ++ ['.', '0']
    else if 0 < point then digits.take point.toNat ++ '.' :: digits.drop point.toNat
    else '0' :: '.' :: (List.replicate (-point).toNat '0' ++ digits)
  else
    let power := point - 1
    let mantissa := match digits with
      | [] => []
      | [d] => [d]
      | d :: rest => d :: '.' :: rest
    let size := digitChars power.natAbs
    mantissa ++ 'e' :: (if power < 0 then '-' else '+') ::
      (if size.length < 2 then '0' :: size else size)

/-- The shortest text of a double. -/
def textChars : Double → List Char
  | .nan _ => "nan".toList
  | .infinite negative => if negative then "-inf".toList else "inf".toList
  | .finite negative 0 _ => if negative then "-0.0".toList else "0.0".toList
  | .finite negative significand exponent =>
    let (digits, power) := shortest significand exponent
    let body := layout (digitChars digits) power
    if negative then '-' :: body else body

/-- The shortest text of a double. -/
def text (x : Double) : String :=
  String.ofList x.textChars

end Double

end AccessControl
