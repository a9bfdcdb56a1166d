/-! The order of names by code points, and lists of names without repetitions. -/

namespace AccessControl.Text

/-- The names without later repetitions, in the order of their first appearance. -/
def distinct {α : Type} [BEq α] (items : List α) : List α :=
  items.foldl (fun found item => if found.contains item then found else found ++ [item]) []

/-- The names in the order of their code points. -/
def sorted (names : List String) : List String :=
  names.mergeSort fun a b => !decide (b < a)

end AccessControl.Text
