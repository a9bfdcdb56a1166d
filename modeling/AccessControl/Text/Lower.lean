import AccessControl.Text.CaseTable

/-! Lower case of a text in any script, and letters that differ from their own capital or small
form. -/

namespace AccessControl.Text

/-- The lower-case form of a single character; one capital becomes a letter and a combining dot. -/
def lowerChar (c : Char) : List Char :=
  if c.toNat < 128 then [c.toLower]
  else if c.toNat == 0x130 then ['i', Char.ofNat 0x307]
  else [(lowerRuns.findSome? fun run => run.apply? c).getD c]

/-- The one character that stands for a letter when case is ignored. -/
def foldChar (c : Char) : Char :=
  (lowerChar c).headD c

/-- Lower-case letters that share a capital. -/
def sharedCapitals : List (List Nat) := [
  [0x69, 0x131], [0x73, 0x17f], [0xb5, 0x3bc], [0x345, 0x3b9, 0x1fbe], [0x390, 0x1fd3],
  [0x3b0, 0x1fe3], [0x3b2, 0x3d0], [0x3b5, 0x3f5], [0x3b8, 0x3d1], [0x3ba, 0x3f0],
  [0x3c0, 0x3d6], [0x3c1, 0x3f1], [0x3c2, 0x3c3], [0x3c6, 0x3d5], [0x432, 0x1c80],
  [0x434, 0x1c81], [0x43e, 0x1c82], [0x441, 0x1c83], [0x442, 0x1c84, 0x1c85], [0x44a, 0x1c86],
  [0x463, 0x1c87], [0x1c88, 0xa64b], [0x1e61, 0x1e9b], [0xfb05, 0xfb06]]

/-- The letters that are the capital of a lower-case letter, or the letter itself. -/
def raisedForms (n : Nat) : List Nat :=
  n :: (if n == 0x69 then [0x130] else []) ++ lowerRuns.toList.filterMap fun run =>
    let capital := (n : Int) - run.distance
    let point := capital.toNat
    if run.first ≤ capital && point ≤ run.last && (point - run.first) % run.step == 0 then
      some point
    else none

/-- The letters that are equal to a letter when case is ignored. -/
def caseVariants (c : Char) : List Nat :=
  let folded := (foldChar c).toNat
  ((sharedCapitals.find? fun letters => letters.contains folded).getD [folded]).flatMap raisedForms

/-- The nearest character that is not passed over has case. -/
def nextIsCased (cs : List Char) : Bool :=
  match cs.dropWhile fun c => caseIgnorable.contains c with
  | [] => false
  | c :: _ => casedLetters.contains c

/-- The characters in lower case, where `before` holds those already passed, nearest first. -/
def lowerChars (before : List Char) : List Char → List Char
  | [] => []
  | c :: rest =>
    let here :=
      -- A capital sigma that ends a word becomes the final form of the letter.
      if c.toNat == 0x3a3 then
        [Char.ofNat (if nextIsCased before && !nextIsCased rest then 0x3c2 else 0x3c3)]
      else lowerChar c
    here ++ lowerChars (c :: before) rest

/-- The text in lower case. -/
def lower (s : String) : String :=
  String.ofList (lowerChars [] s.toList)

/-- The first letter of the capital form of a character. -/
def raiseChar (c : Char) : Char :=
  (upperRuns.findSome? fun run => run.apply? c).getD c

/-- Some character between two code points is changed by a change of case. -/
def holdsCased (low high : Nat) : Bool :=
  lowerRuns.any (fun run => run.meets low high) || upperRuns.any (fun run => run.meets low high) ||
    (low ≤ 0x130 && 0x130 ≤ high)

end AccessControl.Text
