import AccessControl.Decimal.Double

/-! Sums and products of doubles: the exact result in a common unit, rounded once. -/

namespace AccessControl.Double

/-- A finite double as a dyadic number. -/
def dyadic? : Double → Option Dyadic
  | .finite negative significand exponent => some ⟨signed negative significand, exponent⟩
  | _ => none

/-- The double nearest to a dyadic number. -/
def ofDyadic (x : Dyadic) : Double :=
  let unit := Nat.pow 2 x.exponent.natAbs
  if 0 ≤ x.exponent then ofRatio (x.whole < 0) (x.whole.natAbs * unit) 1
  else ofRatio (x.whole < 0) x.whole.natAbs unit

/-- The exact sum of two dyadic numbers, in the smaller of their units. -/
def Dyadic.plus (a b : Dyadic) : Dyadic :=
  let least := min a.exponent b.exponent
  ⟨a.whole * Nat.pow 2 (a.exponent - least).toNat + b.whole * Nat.pow 2 (b.exponent - least).toNat,
    least⟩

/-- The exact product of two dyadic numbers. -/
def Dyadic.times (a b : Dyadic) : Dyadic :=
  ⟨a.whole * b.whole, a.exponent + b.exponent⟩

/-- The sum of two doubles without a sign, which is infinite if one of them is. -/
def plus (x y : Double) : Double :=
  match x.dyadic?, y.dyadic? with
  | some a, some b => ofDyadic (a.plus b)
  | _, _ => .infinite false

/-- The product of two doubles without a sign, which is infinite if one of them is. -/
def times (x y : Double) : Double :=
  match x.dyadic?, y.dyadic? with
  | some a, some b => ofDyadic (a.times b)
  | _, _ => .infinite false

/-- The double with the other sign, if asked for. -/
def negateIf (negative : Bool) : Double → Double
  | .nan mark => .nan mark
  | .infinite sign => .infinite (sign != negative)
  | .finite sign significand exponent => .finite (sign != negative) significand exponent

end AccessControl.Double
