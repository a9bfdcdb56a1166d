import AccessControl.Text.Classes

/-! Removal of blanks at the ends of a text. -/

namespace AccessControl.Text

/-- The characters without those at either end that pass the test. -/
def trimBoth (test : Char → Bool) (cs : List Char) : List Char :=
  ((cs.dropWhile test).reverse.dropWhile test).reverse

/-- The characters without the blanks at either end. -/
def trimChars (cs : List Char) : List Char :=
  trimBoth isBlank cs

/-- The text without the blanks at either end. -/
def trim (s : String) : String :=
  String.ofList (trimChars s.toList)

/-- The characters without any blank. -/
def removeBlanks (cs : List Char) : List Char :=
  cs.filter fun c => !isBlank c

/-- The text splits at a first occurrence of the separator, which is dropped. -/
def splitAtFirst (separator : Char) (cs : List Char) : Option (List Char × List Char) :=
  match cs with
  | [] => none
  | c :: rest =>
    if c == separator then some ([], rest)
    else (splitAtFirst separator rest).map fun parts => (c :: parts.1, parts.2)

/-- The pieces between the occurrences of a separator; there is one more of them than separators. -/
def splitOn (separator : Char) : List Char → List (List Char)
  | [] => [[]]
  | c :: rest =>
    match splitOn separator rest with
    | [] => [[c]]
    | first :: more => if c == separator then [] :: first :: more else (c :: first) :: more

end AccessControl.Text
