import AccessControl.Value.Text
import AccessControl.Decimal.Reading

/-! Equality and order of values: exact for numbers, and with conversion between numbers and
texts. -/

namespace AccessControl

namespace Value

/-- Equality of two values that hold no others; numbers and flags compare by their exact value. -/
def equalScalar : Value → Value → Bool
  | .null, .null => true
  | .text s, .text t => s == t
  | .date a, .date b => a == b
  | .stamp a, .stamp b => a.isAt b
  | .object a, .object b => a.number == b.number
  | .flag a, .flag b => a == b
  | .flag a, .int j => (if a then 1 else 0) == j
  | .int i, .flag b => i == (if b then 1 else 0)
  | .int i, .int j => i == j
  | .real x, .real y => x.equal y
  | .flag a, .real y => Double.compareInt? (if a then 1 else 0) y == some .eq
  | .int i, .real y => Double.compareInt? i y == some .eq
  | .real x, .flag b => Double.compareInt? (if b then 1 else 0) x == some .eq
  | .real x, .int j => Double.compareInt? j x == some .eq
  | _, _ => false

/-- The two values are one nan. It is not equal to itself, but what holds it is. -/
def isOneNan : Value → Value → Bool
  | .real (.nan a), .real (.nan b) => a == b
  | _, _ => false

end Value

/-- The keys are one key of a mapping: they have one value, or are one nan. -/
def Key.same (a b : Key) : Bool :=
  Value.isOneNan a.value b.value || Value.equalScalar a.value b.value

/-- The value stored under a key, or under another of the same value. -/
def lookupPair (key : Key) (pairs : List (Key × Value)) : Option Value :=
  (pairs.find? fun entry => entry.1.same key).map (·.2)

/-- The entries with one more, in the place of an entry of the same key or else at the end. The key
that came first stays. -/
def insertPair (key : Key) (value : Value) : List (Key × Value) → List (Key × Value)
  | [] => [(key, value)]
  | entry :: rest =>
    if entry.1.same key then (entry.1, value) :: rest else entry :: insertPair key value rest

namespace Value

/-- The mapping with the given entries, of which the last one of a key counts. -/
def ofPairs (pairs : List (Key × Value)) : Value :=
  let found := pairs.foldl (fun found entry => insertPair entry.1 entry.2 found) []
  let named := found.filterMap fun entry => match entry.1 with
    | .text s => some (s, entry.2)
    | _ => none
  if named.length == found.length then .dict named else .table found

mutual

/-- Equality of values; mappings, and records of one title, are equal whatever the order of their
keys. -/
def equal : Value → Value → Bool
  | .list xs, .list ys => equalItems xs ys
  | .dict xs, .dict ys => xs.length == ys.length && equalEntries xs ys
  | .table xs, .table ys => xs.length == ys.length && equalPairs xs ys
  | .record title xs, .record other ys =>
    title == other && xs.length == ys.length && equalEntries xs ys
  | x, y => equalScalar x y

/-- Equality of two lists, item by item. -/
def equalItems : List Value → List Value → Bool
  | [], [] => true
  | x :: xs, y :: ys => (isOneNan x y || equal x y) && equalItems xs ys
  | _, _ => false

/-- Every entry has an equal value under its key among the others. -/
def equalEntries : List (String × Value) → List (String × Value) → Bool
  | [], _ => true
  | (key, x) :: xs, ys =>
    match lookupKey key ys with
    | some y => (isOneNan x y || equal x y) && equalEntries xs ys
    | none => false

/-- Every entry of a table has an equal value under an equal key among the others. -/
def equalPairs : List (Key × Value) → List (Key × Value) → Bool
  | [], _ => true
  | (key, x) :: xs, ys =>
    match lookupPair key ys with
    | some y => (isOneNan x y || equal x y) && equalPairs xs ys
    | none => false

end

/-- What becomes of a value that is read as a number. -/
inductive Numeric
  | double (x : Double)
  | tooLarge
  | none
deriving Repr, DecidableEq

/-- The double nearest to a number, a flag or the number written in a text. -/
def toNumeric : Value → Numeric
  | .flag b => .double (.finite false (if b then 1 else 0) 0)
  | .int i =>
    match Double.ofInt? i with
    | some x => .double x
    | Option.none => .tooLarge
  | .real x => .double x
  | .text s =>
    match Decimal.readDouble? s.toList with
    | some x => .double x
    | Option.none => .none
  | _ => .none

/-- The order of two texts by their code points. -/
def compareText (s t : String) : Ordering :=
  if s == t then .eq else if s < t then .lt else .gt

end Value

end AccessControl
