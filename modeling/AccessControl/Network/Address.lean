import AccessControl.Decimal.Reading

/-! Network addresses of both versions, read from their written forms. -/

namespace AccessControl.Network

open AccessControl.Text

/-- The versions of network addresses. -/
inductive Version
  | four
  | six
deriving Repr, DecidableEq

/-- The number of bits of an address. -/
def Version.bits : Version → Nat
  | .four => 32
  | .six => 128

/-- A network address, with the zone that may be named after one of version six. -/
structure Address where
  version : Version
  value : Nat
  zone : Option (List Char)
deriving Repr, DecidableEq

/-- A part of an address of version four: up to three digits, without a zero in front, below 256. -/
def readOctet (cs : List Char) : Option Nat :=
  if cs.isEmpty || !cs.all isAsciiDigit || 3 < cs.length then none
  else if cs.head? == some '0' && 1 < cs.length then none
  else
    let n := Decimal.ofDigits (cs.map asciiDigitValue)
    if n < 256 then some n else none

/-- The value of an address of version four: four parts with points between them. -/
def readFour (cs : List Char) : Option Nat :=
  match splitOn '.' cs with
  | [a, b, c, d] => do
    let a ← readOctet a
    let b ← readOctet b
    let c ← readOctet c
    let d ← readOctet d
    some (((a * 256 + b) * 256 + c) * 256 + d)
  | _ => none

/-- The value of a hexadecimal digit. -/
def hexDigitValue? (c : Char) : Option Nat :=
  if isAsciiDigit c then some (asciiDigitValue c)
  else if 'a' ≤ c && c ≤ 'f' then some (c.toNat - 'a'.toNat + 10)
  else if 'A' ≤ c && c ≤ 'F' then some (c.toNat - 'A'.toNat + 10)
  else none

/-- A group of an address of version six: one to four hexadecimal digits. -/
def readGroup (cs : List Char) : Option Nat :=
  if cs.isEmpty || 4 < cs.length then none
  else cs.foldl (fun n c => do some (16 * (← n) + (← hexDigitValue? c))) (some 0)

/-- The groups of an address, where a last one in the form of version four counts as two. -/
def readGroups : List (List Char) → Option (List Nat)
  | [] => some []
  | [last] =>
    if last.contains '.' then (readFour last).map fun n => [n / 65536, n % 65536]
    else (readGroup last).map fun n => [n]
  | group :: rest => do
    let n ← readGroup group
    let more ← readGroups rest
    some (n :: more)

/-- The value of a row of groups of sixteen bits. -/
def ofGroups (groups : List Nat) : Nat :=
  groups.foldl (fun n group => 65536 * n + group) 0

/-- The pieces before and after the one empty piece, if exactly one piece is empty. -/
def splitAtGap : List (List Char) → Option (List (List Char) × List (List Char))
  | [] => none
  | piece :: rest =>
    if piece.isEmpty then
      if rest.any List.isEmpty then none else some ([], rest)
    else (splitAtGap rest).map fun (before, after) => (piece :: before, after)

/-- The pieces between colons start with a single colon, which neither ends a group nor leaves a
gap. -/
def startsLoose (pieces : List (List Char)) : Bool :=
  match pieces with
  | [] :: next :: _ => !next.isEmpty
  | _ => false

/-- The pieces between colons with a gap at an end, which two colons leave, shown by one empty
piece. -/
def mergeEnds (pieces : List (List Char)) : List (List Char) :=
  let front := match pieces with
    | [] :: [] :: rest => [] :: rest
    | _ => pieces
  match front.reverse with
  | [] :: [] :: rest => ([] :: rest).reverse
  | _ => front

/-- The value of an address of version six, in which two colons stand for one group of zeros or
more. -/
def readSix (cs : List Char) : Option Nat :=
  let pieces := splitOn ':' cs
  if pieces.length < 3 || startsLoose pieces || startsLoose pieces.reverse then none
  else if cs == [':', ':'] then some 0
  else
    let merged := mergeEnds pieces
    if merged.any List.isEmpty then do
      let (before, after) ← splitAtGap merged
      -- A piece in the form of version four may come last only.
      let high ← if before.any (·.contains '.') then none else readGroups before
      let low ← readGroups after
      let given := high.length + low.length
      if 8 ≤ given then none
      else some (ofGroups (high ++ List.replicate (8 - given) 0 ++ low))
    else do
      let groups ← readGroups merged
      if groups.length = 8 then some (ofGroups groups) else none

/-- An address of version six with the zone after a percent sign, which is not empty and has
none. -/
def readZoned (cs : List Char) : Option Address :=
  match splitAtFirst '%' cs with
  | none => (readSix cs).map fun n => ⟨.six, n, none⟩
  | some (address, zone) =>
    if zone.isEmpty || zone.contains '%' then none
    else (readSix address).map fun n => ⟨.six, n, some zone⟩

/-- The address written in a text, with blanks around it allowed. -/
def Address.read? (cs : List Char) : Option Address :=
  let cs := trimChars cs
  if cs.contains '/' then none
  else
    match readFour cs with
    | some n => some ⟨.four, n, none⟩
    | none => readZoned cs

end AccessControl.Network
