import AccessControl.Value.Basic
import AccessControl.Error

/-! The parts of values that hold others: items one after the other, and entries by key. -/

namespace AccessControl

namespace Value

/-- What a value holds one after the other: items, characters or keys. -/
def items : Value → Except Error (List Value)
  | .list items => .ok items
  | .text s => .ok (s.toList.map fun c => .text (String.singleton c))
  | .dict entries => .ok (entries.map fun entry => .text entry.1)
  | .table entries => .ok (entries.map fun entry => entry.1.value)
  | value => .error (.argument (.notIterable value.kindName))

/-- How many things a value holds. -/
def length : Value → Except Error Nat
  | .list items => .ok items.length
  | .text s => .ok s.length
  | .dict entries => .ok entries.length
  | .table entries => .ok entries.length
  | value => .error (.argument (.noLength value.kindName))

/-- The entries of a dictionary; other values have none to ask for. -/
def entries : Value → Except Error (List (String × Value))
  | .dict entries => .ok entries
  | value => .error (.lookup (.attribute value.kindName "items"))

/-- The entries of a mapping. -/
def pairs? : Value → Option (List (Key × Value))
  | .dict entries => some (entries.map fun entry => (.text entry.1, entry.2))
  | .table entries => some entries
  | _ => none

end Value

/-- The value that stands under a name in a mapping. -/
def lookupName (name : String) (pairs : List (Key × Value)) : Option Value :=
  (pairs.find? fun entry => entry.1 == .text name).map (·.2)

end AccessControl
