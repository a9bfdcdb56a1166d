import AccessControl.Value.Compare
import AccessControl.Value.Host

/-! Equality and order between the operands of a matcher, which read texts as numbers where they
can. -/

namespace AccessControl

/-- The inequalities between two operands. -/
inductive Inequality
  | atLeast
  | atMost
  | above
  | below
deriving Repr, DecidableEq

/-- The symbol of an inequality. -/
def Inequality.symbol : Inequality → String
  | .atLeast => ">="
  | .atMost => "<="
  | .above => ">"
  | .below => "<"

/-- The inequality of a symbol. -/
def Inequality.ofSymbol? (symbol : String) : Option Inequality :=
  [atLeast, atMost, above, below].find? fun inequality => inequality.symbol == symbol

/-- The inequality holds for two operands in an order; without an order none holds. -/
def Inequality.holds (inequality : Inequality) : Option Ordering → Bool
  | none => false
  | some order =>
    match inequality with
    | .atLeast => order != .lt
    | .atMost => order != .gt
    | .above => order == .gt
    | .below => order == .lt

namespace Value

variable [Runtime]

/-- Two values are equal as they are, or as doubles when one of them is a number. -/
def looselyEqual (lhs rhs : Value) : Except Error Bool :=
  match Runtime.comparing lhs rhs with
  | some wording => .error (.tooDeep wording)
  | none =>
    if lhs.equal rhs then .ok true
    else if lhs.isNumber || rhs.isNumber then
      -- The left side is read first, and what is no number ends the comparison.
      match lhs.toNumeric with
      | .tooLarge => .error (.number .tooLargeForDouble)
      | .none => .ok false
      | .double x =>
        match rhs.toNumeric with
        | .tooLarge => .error (.number .tooLargeForDouble)
        | .none => .ok false
        | .double y => .ok (x.equal y)
    else .ok false

/-- The order of the texts of two values. -/
def textOrder (lhs rhs : Value) : Except Error (Option Ordering) := do
  let left ← lhs.write
  let right ← rhs.write
  return some (compareText left right)

/-- The order of two values as doubles if both can be read so, and else of their texts. -/
def order (lhs rhs : Value) : Except Error (Option Ordering) :=
  match lhs.toNumeric with
  | .tooLarge => .error (.number .tooLargeForDouble)
  | .none => lhs.textOrder rhs
  | .double x =>
    match rhs.toNumeric with
    | .tooLarge => .error (.number .tooLargeForDouble)
    | .none => lhs.textOrder rhs
    | .double y => .ok (Double.compare? x y)

/-- The inequality holds between two values. -/
def related (inequality : Inequality) (lhs rhs : Value) : Except Error Bool :=
  (order lhs rhs).map inequality.holds

/-- The inequality of a symbol holds between two values; other symbols are refused. -/
def relatedBySymbol (symbol : String) (lhs rhs : Value) : Except Error Bool := do
  let found ← order lhs rhs
  match Inequality.ofSymbol? symbol with
  | some inequality => return inequality.holds found
  | none => throw (.evaluation (.comparison symbol))

end Value

end AccessControl
