import AccessControl.Value.Compare
import AccessControl.Value.Text
import AccessControl.Error

/-! Numbers that bound something, where a flag counts as zero or one. -/

namespace AccessControl

/-- A number that bounds something. -/
inductive Bound
  | whole (i : Int)
  | flag (b : Bool)
  | real (x : Double)
deriving Repr, DecidableEq

namespace Bound

/-- The value that is a bound. -/
def value : Bound → Value
  | .whole i => .int i
  | .flag b => .flag b
  | .real x => .real x

/-- The bound that a value is. -/
def ofValue? : Value → Option Bound
  | .int i => some (.whole i)
  | .flag b => some (.flag b)
  | .real x => some (.real x)
  | _ => none

/-- The bound is less than a whole number; a nan is not. -/
def isBelow (bound : Bound) (i : Int) : Bool :=
  match bound with
  | .whole j => j < i
  | .flag b => (if b then 1 else 0) < i
  | .real x => Double.compareInt? i x == some .gt

/-- How often something may happen within the bound; a real number does not tell. -/
def count : Bound → Except Error Nat
  | .whole i => .ok i.toNat
  | .flag b => .ok (if b then 1 else 0)
  | .real x => .error (.argument (.notWhole (Value.real x).kindName))

end Bound

end AccessControl
