import AccessControl.Regex.Progress
import AccessControl.Text.CharName
import AccessControl.Text.Classes

/-! What a backslash with what follows it stands for, inside sets of characters and outside them. -/

namespace AccessControl.Regex

/-- The value of a hexadecimal digit. -/
def hexValue? (c : Char) : Option Nat :=
  if Text.isAsciiDigit c then some (Text.asciiDigitValue c)
  else if 'a' ≤ c && c ≤ 'f' then some (c.toNat - 'a'.toNat + 10)
  else if 'A' ≤ c && c ≤ 'F' then some (c.toNat - 'A'.toNat + 10)
  else none

/-- A digit zero to seven. -/
def isOctal (c : Char) : Bool := '0' ≤ c && c ≤ '7'

/-- The number with the given digits in a base. -/
def inBase (base : Nat) (digits : List Char) : Nat :=
  digits.foldl (fun n c => base * n + (hexValue? c).getD 0) 0

/-- The code point written in exactly the given number of hexadecimal digits. -/
def hexPoint (width : Nat) : Read Nat := do
  let digits ← takeWhile (fun c => (hexValue? c).isSome) width
  let point := inBase 16 digits
  if digits.length == width && point < 0x110000 then return point else refuse

/-- A class named by a letter, and whether it is negated. -/
def categoryOf? (c : Char) : Option (Category × Bool) :=
  match c with
  | 'd' => some (.digit, false)
  | 'D' => some (.digit, true)
  | 's' => some (.blank, false)
  | 'S' => some (.blank, true)
  | 'w' => some (.word, false)
  | 'W' => some (.word, true)
  | _ => none

/-- The code point of a control character named by a letter. -/
def controlOf? (c : Char) : Option Nat :=
  match c with
  | 'a' => some 7
  | 'b' => some 8
  | 'f' => some 12
  | 'n' => some 10
  | 'r' => some 13
  | 't' => some 9
  | 'v' => some 11
  | _ => none

/-- The place named by a letter. -/
def placeOf? (c : Char) : Option Place :=
  match c with
  | 'A' => some .textStart
  | 'b' => some .boundary
  | 'B' => some .noBoundary
  | 'Z' => some .textEnd
  | _ => none

/-- The code point of the character whose name stands between braces. -/
def namedPoint : Read Nat := do
  demand '{'
  match Text.charNamed? (← takeUntil '}' ((← get).rest.length + 1) []) with
  | some point => return point
  | none => refuse

/-- The code point of an escape by number or by name; an escaped letter without a meaning is
refused. -/
def escapedPoint (c : Char) : Read Nat := do
  match c with
  | 'N' => namedPoint
  | 'x' => hexPoint 2
  | 'u' => hexPoint 4
  | 'U' => hexPoint 8
  | _ => if Text.isAsciiLetter c then refuse else return c.toNat

/-- The member that an escape stands for inside a set. -/
def setEscape (c : Char) : Read Member := do
  match controlOf? c, categoryOf? c with
  | some n, _ => return .point n
  | none, some (kind, negated) => return .category kind negated
  | none, none =>
    if isOctal c then
      let point := inBase 8 (c :: (← takeWhile isOctal 2))
      if point ≤ 0o377 then return .point point else refuse
    else if Text.isAsciiDigit c then refuse
    else return .point (← escapedPoint c)

/-- The expression for one code point. -/
def pointNode (options : Options) (n : Nat) : Node :=
  .one (CharTest.ofPoint false n options.casing)

/-- The expression for a set of characters. -/
def setNode (options : Options) (negated : Bool) (members : List Member) : Node :=
  .one (CharTest.ofMembers negated members options.casing)

/-- A back reference to a complete group, which a look-behind must not share. -/
def referenceTo (options : Options) (index : Nat) : Read Node := do
  let progress ← get
  match progress.groups[index - 1]? with
  | some (some width) =>
    match progress.behind with
    | some count => if count < index then refuse
    | none => pure ()
    return .reference index options.casing width
  | _ => refuse

/-- What an escape that starts with a digit other than zero stands for. -/
def numberEscape (options : Options) (c : Char) : Read Node := do
  match ← takeWhile Text.isAsciiDigit 1 with
  | [d] =>
    let third ← if isOctal c && isOctal d then takeWhile isOctal 1 else pure []
    match third with
    | [e] =>
      let point := inBase 8 [c, d, e]
      if point ≤ 0o377 then return pointNode options point else refuse
    | _ => referenceTo options (inBase 10 [c, d])
  | _ => referenceTo options (inBase 10 [c])

/-- What an escape stands for outside sets. -/
def escapeNode (options : Options) (c : Char) : Read Node := do
  match placeOf? c, categoryOf? c, controlOf? c with
  | some place, _, _ => return .place place options.ascii
  | none, some (kind, negated), _ => return setNode options false [.category kind negated]
  | none, none, some n => return pointNode options n
  | none, none, none =>
    if c == '0' then return pointNode options (inBase 8 (← takeWhile isOctal 2))
    else if Text.isAsciiDigit c then numberEscape options c
    else return pointNode options (← escapedPoint c)

/-- A single member, with nothing yet said about a range. -/
def setMember (mark : Mark) : Read Member := do
  match mark with
  | .plain c => return .point c.toNat
  | .escaped c => setEscape c
  | .broken => refuse

/-- The members of a set up to its closing bracket; a bracket that comes first is a member. -/
def setMembers : Nat → List Member → Read (List Member)
  | 0, _ => refuse
  | fuel + 1, found => do
    match ← next with
    | none => refuse
    | some mark =>
      if mark == .plain ']' && !found.isEmpty then return found.reverse
      let low ← setMember mark
      if ← accept '-' then
        match ← next with
        | none => refuse
        | some stop =>
          -- A hyphen before the closing bracket stands for itself.
          if stop == .plain ']' then return (.point '-'.toNat :: low :: found).reverse
          match low, ← setMember stop with
          | .point a, .point b =>
            if b < a then refuse else setMembers fuel (.range a b :: found)
          | _, _ => refuse
      else setMembers fuel (low :: found)

end AccessControl.Regex
