import AccessControl.Text.Classes
import AccessControl.Text.Lower

/-! Tests on single characters in regular expressions, with case or without. -/

namespace AccessControl.Regex

/-- The classes that an escape with a letter names. -/
inductive Category
  | digit
  | blank
  | word
deriving Repr, DecidableEq

/-- The character belongs to the class, or to its ASCII part. -/
def Category.holds (category : Category) (ascii : Bool) (c : Char) : Bool :=
  (!ascii || c.toNat < 128) &&
    match category with
    | .digit => Text.isDecimalDigit c
    -- The four information separators count as blank only outside the ASCII part.
    | .blank => Text.isBlank c && !(ascii && 0x1c ≤ c.toNat && c.toNat < 0x20)
    | .word => Text.isWord c

/-- A member of a character set. -/
inductive Member
  | point (n : Nat)
  | range (low high : Nat)
  | category (kind : Category) (negated : Bool)
deriving Repr, DecidableEq

/-- How characters are compared: whether case counts, and whether classes are those of ASCII. -/
structure Casing where
  ignoreCase : Bool
  ascii : Bool
deriving Repr, DecidableEq

/-- The small letter that stands for a character. -/
def Casing.fold (casing : Casing) (c : Char) : Char :=
  if !casing.ignoreCase then c
  else if casing.ascii then c.toLower
  else Text.foldChar c

/-- The code points that are equal to a character. -/
def Casing.variants (casing : Casing) (c : Char) : List Nat :=
  if !casing.ignoreCase then [c.toNat]
  else if casing.ascii then [c.toNat, c.toLower.toNat, c.toUpper.toNat]
  else Text.caseVariants c

/-- Two characters are equal in a back reference. -/
def Casing.same (casing : Casing) (a b : Char) : Bool :=
  casing.fold a == casing.fold b

/-- Some code point of a range has another case, and case does not count. -/
def Casing.changes (casing : Casing) (low high : Nat) : Bool :=
  casing.ignoreCase &&
    if casing.ascii then (low ≤ 0x5a && 0x41 ≤ high) || (low ≤ 0x7a && 0x61 ≤ high)
    else Text.holdsCased low high

/-- The last code point of the basic plane. -/
def lastBasic : Nat := 0xffff

/-- The character lies in a range. Where case does not count, a range that leaves the basic plane
holds a character also if its small letter, or the capital of that, lies in the range. -/
def Casing.inRange (casing : Casing) (low high : Nat) (c : Char) : Bool :=
  let basic := (casing.variants c).any fun n => low ≤ n && n ≤ min high lastBasic
  let small := casing.fold c
  let capital := if casing.ignoreCase then Text.raiseChar small else small
  basic || (lastBasic < high &&
    [small, capital].any fun other => low ≤ other.toNat && other.toNat ≤ high)

/-- The member holds the character. A member beyond the basic plane is compared with the small
letter of the character, whatever its own case is. -/
def Member.holds (casing : Casing) (c : Char) : Member → Bool
  | .point n =>
    if n ≤ lastBasic then (casing.variants c).contains n else (casing.fold c).toNat == n
  | .range low high => casing.inRange low high c
  | .category kind negated => kind.holds casing.ascii c != negated

/-- Case does not count, and the member has characters with case, or is a range that may have
them. -/
def Member.hasCase (casing : Casing) : Member → Bool
  | .point n => casing.changes n n
  | .range low high => casing.ignoreCase && (lastBasic < high || casing.changes low high)
  | .category .. => false

/-- A set with the member compares small letters: the member has case, or lies beyond the basic
plane. -/
def Member.isFolded (casing : Casing) : Member → Bool
  | .point n => casing.changes n n || (casing.ignoreCase && lastBasic < n)
  | member => member.hasCase casing

/-- A test on one character. Where its casing ignores case, case makes a difference to it. -/
inductive CharTest
  | any (newline : Bool)
  | point (negated : Bool) (n : Nat) (casing : Casing)
  | set (negated : Bool) (members : List Member) (casing : Casing)
deriving Repr, DecidableEq

/-- The test for one code point. -/
def CharTest.ofPoint (negated : Bool) (n : Nat) (casing : Casing) : CharTest :=
  .point negated n { casing with ignoreCase := casing.changes n n }

/-- The test for a set; a single code point is no set. -/
def CharTest.ofMembers (negated : Bool) (members : List Member) (casing : Casing) : CharTest :=
  match members.eraseDups with
  | [.point n] => ofPoint negated n casing
  | members =>
    let folded := members.any fun member => member.isFolded casing
    .set negated members { casing with ignoreCase := folded }

/-- The character passes the test. -/
def CharTest.holds (c : Char) : CharTest → Bool
  | .any newline => newline || c != '\n'
  | .point negated n casing =>
    (if casing.ignoreCase then (casing.variants c).contains n else c.toNat == n) != negated
  | .set negated members casing => (members.any fun member => member.holds casing c) != negated

/-- The one code point that passes the test, if the test compares nothing else. -/
def CharTest.literal? : CharTest → Option Nat
  | .point false n casing => if casing.ignoreCase then none else some n
  | _ => none

/-- The test is a set whose members are compared as they are. -/
def CharTest.isPlainSet : CharTest → Bool
  | .set _ _ casing => !casing.ignoreCase
  | _ => false

/-- The test looks for a small letter among several. -/
def CharTest.isFoldedSet : CharTest → Bool
  | .set _ _ casing => casing.ignoreCase
  | .point _ n casing =>
    casing.ignoreCase && !casing.ascii &&
      Text.sharedCapitals.any fun letters => letters.contains (Text.foldChar (Char.ofNat n)).toNat
  | .any _ => false

end AccessControl.Regex
