import AccessControl.Network.Address
import AccessControl.Error

/-! Blocks and ranges of network addresses. -/

namespace AccessControl.Network

open AccessControl.Text

/-- The mask of the highest `length` of the given number of bits. -/
def mask (length bits : Nat) : Nat :=
  ((1 <<< bits) - 1) ^^^ ((1 <<< (bits - length)) - 1)

/-- The length of a prefix written in ASCII digits, if it is no longer than an address. -/
def readLength (text : List Char) (bits : Nat) : Except Error (Option Nat) :=
  let digits := trimChars text
  if digits.isEmpty || !digits.all isAsciiDigit then .ok none
  else
    match Decimal.wholeOfDigits false (digits.map asciiDigitValue) with
    | .value n => .ok (if n.toNat ≤ bits then some n.toNat else none)
    | .tooLong count => .error (.number (.tooManyDigits count))
    | .malformed => .ok none

/-- The addresses are of one version and have the first bits, as many as the length says, in
common. -/
def within (address base : Address) (length : Option (List Char)) : Except Error Bool :=
  if address.version != base.version then .ok false
  else
    match length with
    | none => .ok (address == base)
    | some text =>
      let bits := base.version.bits
      (readLength text bits).map fun
        | none => false
        | some length =>
          let mask := mask length bits
          address.value &&& mask == base.value &&& mask

/-- The address and the length of a block, which a slash separates. -/
def splitBlock (cs : List Char) : List Char × Option (List Char) :=
  match splitAtFirst '/' cs with
  | some (address, length) => (address, some length)
  | none => (cs, none)

/-- The address lies in the block; `otherwise` is the answer when the block has no address. -/
def inBlock (otherwise : Bool) (address block : List Char) : Except Error Bool :=
  match Address.read? address with
  | none => .ok false
  | some address =>
    let (base, length) := splitBlock block
    match Address.read? base with
    | none => .ok otherwise
    | some base => within address base length

/-- The address lies between the two ends of a range, or in a block when no range is written. -/
def inRange (address range : List Char) : Except Error Bool :=
  match if range.contains '/' then none else splitAtFirst '-' range with
  | some (first, last) =>
    match Address.read? address, Address.read? first, Address.read? last with
    | some address, some first, some last =>
      .ok (address.version == first.version && first.version == last.version &&
        first.value ≤ address.value && address.value ≤ last.value)
    | _, _, _ => .ok false
  | none => inBlock false address range

end AccessControl.Network
