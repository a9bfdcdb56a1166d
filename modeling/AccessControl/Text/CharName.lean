import AccessControl.Text.NameTable.Alphabets
import AccessControl.Text.NameTable.Syllabaries
import AccessControl.Text.NameTable.Symbols
import AccessControl.Text.NameTable.EastAsian
import AccessControl.Text.NameTable.Historic
import AccessControl.Text.NameTable.Notation
import AccessControl.Text.NameTable.Pictographs
import AccessControl.Text.NameTable.Further

/-! The character that a name of the Unicode standard stands for. -/

namespace AccessControl.Text

/-- The sounds that start a Hangul syllable, in the order of the syllables. -/
def leadingSounds : List String :=
  ["G", "GG", "N", "D", "DD", "R", "M", "B", "BB", "S", "SS", "", "J", "JJ", "C", "K",
    "T", "P", "H"]

/-- The vowels of Hangul syllables, in the order of the syllables. -/
def vowelSounds : List String :=
  ["A", "AE", "YA", "YAE", "EO", "E", "YEO", "YE", "O", "WA", "WAE", "OE", "YO", "U", "WEO", "WE",
    "WI", "YU", "EU", "YI", "I"]

/-- The sounds that end a Hangul syllable, in the order of the syllables. -/
def trailingSounds : List String :=
  ["", "G", "GG", "GS", "N", "NJ", "NH", "D", "L", "LG", "LM", "LB", "LS", "LT", "LP", "LH", "M",
    "B", "BS", "S", "SS", "NG", "J", "C", "K", "T", "P", "H"]

/-- The longest sound at the start of a text, by its place in the list, and the text after it. -/
def longestSound (sounds : List String) (text : List Char) : Option (Nat × List Char) :=
  (sounds.zipIdx.filterMap fun (sound, index) =>
    (sound.toList.isPrefixOf? text).map fun rest => (index, rest)).foldl
      (fun best found => match best with
        | some (_, rest) => if found.2.length < rest.length then some found else best
        | none => some found) none

/-- The Hangul syllable with the given sounds. -/
def hangulSyllable? (sounds : List Char) : Option Nat := do
  let (lead, rest) ← longestSound leadingSounds sounds
  let (vowel, rest) ← longestSound vowelSounds rest
  let (trail, rest) ← longestSound trailingSounds rest
  guard rest.isEmpty
  return 0xac00 + (lead * vowelSounds.length + vowel) * trailingSounds.length + trail

/-- The ideographs that are named by their number only. -/
def unifiedIdeographs : List (Nat × Nat) :=
  [(0x3400, 0x4dbf), (0x4e00, 0x9fff), (0x20000, 0x2a6df), (0x2a700, 0x2b738), (0x2b740, 0x2b81d),
    (0x2b820, 0x2cea1), (0x2ceb0, 0x2ebe0), (0x30000, 0x3134a)]

/-- The value of a hexadecimal digit whose letters are capitals. -/
def capitalHexValue? (c : Char) : Option Nat :=
  if '0' ≤ c && c ≤ '9' then some (c.toNat - '0'.toNat)
  else if 'A' ≤ c && c ≤ 'F' then some (c.toNat - 'A'.toNat + 10)
  else none

/-- The number written in hexadecimal digits whose letters are capitals. -/
def capitalHex? (digits : List Char) : Option Nat :=
  digits.foldlM (fun n c => (capitalHexValue? c).map (16 * n + ·)) 0

/-- The ideograph with the given number, in four digits or five. -/
def unifiedIdeograph? (digits : List Char) : Option Nat := do
  guard (digits.length == 4 || digits.length == 5)
  let n ← capitalHex? digits
  guard (unifiedIdeographs.any fun range => range.1 ≤ n && n ≤ range.2)
  return n

/-- Stems of names that go on with the number of the character, and the numbers that there are. -/
def numberedNames : List (String × Nat × Nat) :=
  [("CJK COMPATIBILITY IDEOGRAPH-", 0xf900, 0xfa6d),
    ("CJK COMPATIBILITY IDEOGRAPH-", 0xfa70, 0xfad9),
    ("CJK COMPATIBILITY IDEOGRAPH-", 0x2f800, 0x2fa1d),
    ("KHITAN SMALL SCRIPT CHARACTER-", 0x18b00, 0x18cd5), ("NUSHU CHARACTER-", 0x1b170, 0x1b2fb)]

/-- The character that is named by a stem and its own number, without leading zeros. -/
def numberedChar? (name : List Char) : Option Nat :=
  numberedNames.findSome? fun (stem, low, high) => do
    let digits ← stem.toList.isPrefixOf? name
    let n ← capitalHex? digits
    guard (low ≤ n && n ≤ high && digits.head? != some '0')
    return n

/-- The character that one of the tables lists under the name. -/
def listedChar? (name : List Char) : Option Nat :=
  ([alphabetNames, syllabaryNames, symbolNames, eastAsianNames, historicNames, notationNames,
    pictographNames].findSome? fun runs => runs.findSome? fun run => run.find? name) <|>
    furtherNames.findSome? fun (point, names) =>
      if (names.splitOn "/").contains (String.ofList name) then some point else none

/-- The code point of the character with a name. Capital and small letters are the same in names,
but for syllables and ideographs that are named by a rule. -/
def charNamed? (name : List Char) : Option Nat :=
  match "HANGUL SYLLABLE ".toList.isPrefixOf? name with
  | some sounds => hangulSyllable? sounds
  | none =>
    match "CJK UNIFIED IDEOGRAPH-".toList.isPrefixOf? name with
    | some digits => unifiedIdeograph? digits
    | none =>
      let name := name.map Char.toUpper
      numberedChar? name <|> listedChar? name

end AccessControl.Text
