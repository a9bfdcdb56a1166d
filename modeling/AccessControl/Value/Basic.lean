import AccessControl.Decimal.Double
import AccessControl.Time.Calendar

/-! Values of requests and documents. -/

namespace AccessControl

/-- A key of a mapping, which is a value that holds no others. -/
inductive Key
  | null
  | flag (b : Bool)
  | int (i : Int)
  | real (x : Double)
  | text (s : String)
  | date (day : Time.Day)
  | stamp (moment : Time.Stamp)
deriving Repr, DecidableEq, Inhabited

/-- An object that is not data but an attribute of some, such as a method or a type. Objects of one
number are equal; the kind and the texts are what messages give. -/
structure Object where
  number : Nat
  kind : String
  text : String
  shown : String
  isTrue : Bool
deriving Repr, DecidableEq, Inhabited

/-- A value of a request or a document; a record has a title and attributes, and keys keep their
order. A mapping whose keys are all texts is a dictionary, and any other mapping is a table. -/
inductive Value
  | null
  | flag (b : Bool)
  | int (i : Int)
  | real (x : Double)
  | text (s : String)
  | list (items : List Value)
  | dict (entries : List (String × Value))
  | table (entries : List (Key × Value))
  | record (title : String) (attributes : List (String × Value))
  | date (day : Time.Day)
  | stamp (moment : Time.Stamp)
  | object (own : Object)
deriving Repr, Inhabited

/-- The value stored under a key, the first one if there are several. -/
def lookupKey {α : Type} (key : String) (entries : List (String × α)) : Option α :=
  (entries.find? fun entry => entry.1 == key).map (·.2)

/-- The entries with one more, in the place of an entry of the same key or else at the end. -/
def insertKey {α : Type} (key : String) (value : α) : List (String × α) → List (String × α)
  | [] => [(key, value)]
  | entry :: rest =>
    if entry.1 == key then (key, value) :: rest else entry :: insertKey key value rest

/-- The entries in the order in which their keys first appear, each with its last value. -/
def collectKeys {α : Type} (entries : List (String × α)) : List (String × α) :=
  entries.foldl (fun found entry => insertKey entry.1 entry.2 found) []

/-- The value that a key is. -/
def Key.value : Key → Value
  | .null => .null
  | .flag b => .flag b
  | .int i => .int i
  | .real x => .real x
  | .text s => .text s
  | .date day => .date day
  | .stamp moment => .stamp moment

namespace Value

/-- The title of a record that has no kind of its own. -/
def plainTitle : String := "namespace"

/-- The key that a value can be; a value that holds others is none, nor is an object. -/
def key? : Value → Option Key
  | .null => some .null
  | .flag b => some (.flag b)
  | .int i => some (.int i)
  | .real x => some (.real x)
  | .text s => some (.text s)
  | .date day => some (.date day)
  | .stamp moment => some (.stamp moment)
  | .list _ | .dict _ | .table _ | .record .. | .object _ => none

/-- What a value counts as when a condition is asked of it. -/
def isTrue : Value → Bool
  | .null => false
  | .flag b => b
  | .int i => i != 0
  | .real x => x.isNonzero
  | .text s => s != ""
  | .list items => !items.isEmpty
  | .dict entries => !entries.isEmpty
  | .table entries => !entries.isEmpty
  | .record .. | .date _ | .stamp _ => true
  | .object own => own.isTrue

/-- The name of the kind of a value, as messages give it. -/
def kindName : Value → String
  | .null => "NoneType"
  | .flag _ => "bool"
  | .int _ => "int"
  | .real _ => "float"
  | .text _ => "str"
  | .list _ => "list"
  | .dict _ | .table _ => "dict"
  | .record title _ => if title == plainTitle then "types.SimpleNamespace" else title
  | .date _ => "datetime.date"
  | .stamp _ => "datetime.datetime"
  | .object own => own.kind

/-- The last part of the name of the kind of a value. -/
def shortKindName : Value → String
  | .record title _ => if title == plainTitle then "SimpleNamespace" else title
  | .date _ => "date"
  | .stamp _ => "datetime"
  | value => value.kindName

/-- A whole or real number; a flag is not one. -/
def isNumber : Value → Bool
  | .int _ | .real _ => true
  | _ => false

end Value

end AccessControl
