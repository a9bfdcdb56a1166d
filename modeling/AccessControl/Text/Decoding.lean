import AccessControl.Value.Text

/-! Text decoded from octets, with the place and the reason where octets are no text. -/

namespace AccessControl.Text

/-- Octets that are no text: the first and the last of them, and the reason. -/
structure DecodingFault where
  octet : Nat
  first : Nat
  last : Nat
  reason : String
deriving Repr, DecidableEq

/-- The wording of a decoding fault. -/
def DecodingFault.message (fault : DecodingFault) : String :=
  let place :=
    if fault.first == fault.last then
      "byte 0x" ++ String.ofList (hexDigits 2 fault.octet) ++ " in position " ++ intText fault.first
    else "bytes in position " ++ intText fault.first ++ "-" ++ intText fault.last
  "'utf-8' codec can't decode " ++ place ++ ": " ++ fault.reason

/-- An octet that continues a character. -/
def continues (octet : Nat) : Bool := 0x80 ≤ octet && octet < 0xc0

/-- The number of octets of a character by its first octet. -/
def octetWidth? (octet : Nat) : Option Nat :=
  if octet < 0x80 then some 1
  else if 0xc2 ≤ octet && octet < 0xe0 then some 2
  else if 0xe0 ≤ octet && octet < 0xf0 then some 3
  else if 0xf0 ≤ octet && octet < 0xf5 then some 4
  else none

/-- The second octet of a character cannot follow its first one. -/
def refusesSecond (first second : Nat) : Bool :=
  !continues second || (first == 0xe0 && second < 0xa0) || (first == 0xed && 0xa0 ≤ second) ||
    (first == 0xf0 && second < 0x90) || (first == 0xf4 && 0x90 ≤ second)

/-- The number of octets of a character, its first one included, before one that cannot follow. -/
def goodOctets (first : Nat) : List Nat → Nat
  | [] => 1
  | second :: more =>
    if refusesSecond first second then 1 else 2 + (more.takeWhile continues).length

/-- The character of a first octet and those that continue it. -/
def joinOctets (first width : Nat) (more : List Nat) : Char :=
  let lead := if width == 1 then first else first % Nat.pow 2 (7 - width)
  Char.ofNat (more.foldl (fun n octet => 64 * n + octet % 64) lead)

/-- The characters of octets from a position on, after as many octets as belong to the last one. -/
def decodeFrom (position : Nat) : Nat → List Nat → Except DecodingFault (List Char)
  | _, [] => .ok []
  | passed + 1, _ :: rest => decodeFrom (position + 1) passed rest
  | 0, first :: rest =>
    match octetWidth? first with
    | none => .error ⟨first, position, position, "invalid start byte"⟩
    | some width =>
      let more := rest.take (width - 1)
      let good := goodOctets first more
      if more.length + 1 < width && good == more.length + 1 then
        .error ⟨first, position, position + more.length, "unexpected end of data"⟩
      else if width ≤ 1 || width ≤ good then
        (decodeFrom (position + 1) (width - 1) rest).map (joinOctets first width more :: ·)
      else .error ⟨first, position, position + good - 1, "invalid continuation byte"⟩

/-- The characters of octets. -/
def decode (octets : List Nat) : Except DecodingFault (List Char) :=
  decodeFrom 0 0 octets

/-- Every kind of line break becomes the same one. -/
def unifyBreaks : List Char → List Char
  | [] => []
  | '\r' :: '\n' :: rest => '\n' :: unifyBreaks rest
  | '\r' :: rest => '\n' :: unifyBreaks rest
  | c :: rest => c :: unifyBreaks rest

end AccessControl.Text
