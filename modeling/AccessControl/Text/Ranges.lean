/-! Sets of characters given as inclusive ranges of code points, and runs of characters that change
case or are named alike, for properties of the Unicode standard. -/

namespace AccessControl.Text

/-- A set of code points as inclusive ranges, from a first to a last point each. -/
abbrev Ranges := Array (Nat × Nat)

/-- The character lies in one of the ranges. -/
def Ranges.contains (ranges : Ranges) (c : Char) : Bool :=
  ranges.any fun range => range.1 ≤ c.toNat && c.toNat ≤ range.2

/-- A run of letters that change case by one common distance, every `step` code points. -/
structure CaseRun where
  first : Nat
  last : Nat
  step : Nat
  distance : Int
deriving Repr

/-- The partner of a letter of the run, and nothing for other characters. -/
def CaseRun.apply? (run : CaseRun) (c : Char) : Option Char :=
  if run.first ≤ c.toNat && c.toNat ≤ run.last && (c.toNat - run.first) % run.step == 0 then
    some (Char.ofNat (Int.toNat (c.toNat + run.distance)))
  else
    none

/-- Some letter of the run lies between two code points. -/
def CaseRun.meets (run : CaseRun) (low high : Nat) : Bool :=
  let skipped := (low - run.first + run.step - 1) / run.step
  run.first + skipped * run.step ≤ min high run.last

/-- Names of consecutive characters: a common stem, and after it an ending for each. A text holds
several endings, with slashes between. -/
structure NameRun where
  first : Nat
  stem : String
  endings : List String
deriving Repr

/-- The character of the run that has the name. -/
def NameRun.find? (run : NameRun) (name : List Char) : Option Nat :=
  match run.stem.toList.isPrefixOf? name with
  | none => none
  | some rest =>
    ((run.endings.flatMap fun texts => texts.splitOn "/").idxOf? (String.ofList rest)).map
      fun index => run.first + index

end AccessControl.Text
