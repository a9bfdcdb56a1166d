import AccessControl.Callable.Basic
import AccessControl.Text.Order

/-! The functions that matchers may call, by name and in the order of their registration. -/

namespace AccessControl

/-- Functions by name; each name is registered once. -/
structure Registry where
  entries : List (String × Callable)

namespace Registry

/-- A registry without functions. -/
def empty : Registry := ⟨[]⟩

/-- The function of a name. -/
def get? (registry : Registry) (name : String) : Option Callable :=
  lookupKey name registry.entries

/-- The name has a function. -/
def contains (registry : Registry) (name : String) : Bool :=
  registry.entries.any fun entry => entry.1 == name

/-- The registry with a function, which takes the place of another one of the same name. -/
def insert (registry : Registry) (name : String) (function : Callable) : Registry :=
  ⟨insertKey name function registry.entries⟩

/-- The registry with what is given for a name, which has to be a function. -/
def register (registry : Registry) (name : String) (given : Option Callable) :
    Except Error Registry :=
  match given with
  | some function => .ok (registry.insert name function)
  | none => .error (.argument (.notFunction name))

/-- The registry without a name. -/
def erase (registry : Registry) (name : String) : Registry :=
  ⟨registry.entries.filter fun entry => entry.1 != name⟩

/-- The names in the order of registration. -/
def order (registry : Registry) : List String :=
  registry.entries.map (·.1)

/-- The names in the order of their code points. -/
def names (registry : Registry) : List String :=
  Text.sorted registry.order

/-- The number of functions. -/
def size (registry : Registry) : Nat :=
  registry.entries.length

end Registry

end AccessControl
