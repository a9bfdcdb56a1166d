import AccessControl.Decimal.Reading
import AccessControl.Value.Parts

/-! What the runtime decides about values: which numbers it writes, where its stack ends, and which
attributes the objects behind values have. -/

namespace AccessControl

namespace Value

mutual

/-- Every whole number in the text of a value has few digits. -/
def isWritable : Value → Bool
  | .int i => Decimal.HasFewDigits i
  | .list items => itemsWritable items
  | .dict entries => entriesWritable entries
  | .table entries => pairsWritable entries
  | .record _ attributes => attributesWritable attributes
  | _ => true

/-- Every item of a list is writable. -/
def itemsWritable : List Value → Bool
  | [] => true
  | item :: rest => isWritable item && itemsWritable rest

/-- Every value of a dictionary is writable. -/
def entriesWritable : List (String × Value) → Bool
  | [] => true
  | (_, value) :: rest => isWritable value && entriesWritable rest

/-- Every key and every value of a table is writable. -/
def pairsWritable : List (Key × Value) → Bool
  | [] => true
  | (key, value) :: rest =>
    (match key with
      | .int i => decide (Decimal.HasFewDigits i)
      | _ => true) && isWritable value && pairsWritable rest

/-- Every attribute that has a name is writable; the others are not written. -/
def attributesWritable : List (String × Value) → Bool
  | [] => true
  | (key, value) :: rest => (key == "" || isWritable value) && attributesWritable rest

end

mutual

/-- How many levels of values stand in one another below a value. -/
def depth : Value → Nat
  | .list items => itemsDepth items
  | .dict entries => entriesDepth entries
  | .table entries => pairsDepth entries
  | .record _ attributes => entriesDepth attributes
  | _ => 0

/-- The levels that items add. -/
def itemsDepth : List Value → Nat
  | [] => 0
  | item :: rest => max (depth item + 1) (itemsDepth rest)

/-- The levels that the values of a dictionary add. -/
def entriesDepth : List (String × Value) → Nat
  | [] => 0
  | (_, value) :: rest => max (depth value + 1) (entriesDepth rest)

/-- The levels that the values of a table add. -/
def pairsDepth : List (Key × Value) → Nat
  | [] => 0
  | (_, value) :: rest => max (depth value + 1) (pairsDepth rest)

end

/-- The text of a value, unless a number in it has too many digits. -/
def written (value : Value) : Except Error String :=
  if value.isWritable then .ok value.asText else .error (.number .tooLongToWrite)

end Value

/-! ### The end of the stack -/

/-- The stack of the runtime ends, with the wording that says where. -/
def Error.tooDeep (wording : String) : Error := .raised "RecursionError" wording

/-- A character that opens a list or a mapping of a document. -/
def opensLevel (c : Char) : Bool := c == '[' || c == '\x7b'

/-- The wordings with which the stack of the runtime ends while values are compared or written, a
document is read or a regular expression is compiled. How much of the stack is left depends on what
has called, so where it ends is left open, but `levels` of data or of groups are never too many. -/
class Runtime where
  levels : Nat
  comparing : Value → Value → Option String
  writing : Value → Option String
  reading : List Char → Option String
  compiling : List Char → Option String
  deep_of_comparing :
    ∀ lhs rhs, (comparing lhs rhs).isSome → levels < lhs.depth ∧ levels < rhs.depth
  deep_of_writing : ∀ value, (writing value).isSome → levels < value.depth
  deep_of_reading : ∀ cs, (reading cs).isSome → levels < cs.countP opensLevel
  deep_of_compiling : ∀ cs, (compiling cs).isSome → levels < cs.count '('

namespace Value

variable [Runtime]

/-- The text of a value, unless the stack ends before it is complete. -/
def write (value : Value) : Except Error String :=
  match Runtime.writing value with
  | some wording => .error (.tooDeep wording)
  | none => value.written

/-- A value as messages show it, unless the stack ends before it is complete. -/
def writeShown (value : Value) : Except Error String :=
  match Runtime.writing value with
  | some wording => .error (.tooDeep wording)
  | none => if value.isWritable then .ok value.shown else .error (.number .tooLongToWrite)

end Value

/-- The wording of a stack that has ended, with what was done. -/
def endWording (doing : String) : String := "maximum recursion depth exceeded" ++ doing

/-- The most marks of one kind that stand open between marks that open and marks that close. -/
def openMarks (opens closes : Char → Bool) : Nat → List Char → Nat
  | now, [] => now
  | now, c :: rest =>
    if opens c then openMarks opens closes (now + 1) rest
    else if closes c then max now (openMarks opens closes (now - 1) rest)
    else openMarks opens closes now rest

/-- No more marks stand open than there are. -/
theorem openMarks_le (opens closes : Char → Bool) (now : Nat) (cs : List Char) :
    openMarks opens closes now cs ≤ now + cs.countP opens := by
  induction cs generalizing now with
  | nil => simp [openMarks]
  | cons c rest ih =>
    simp only [openMarks, List.countP_cons]
    split
    · have := ih (now + 1)
      omega
    split
    · have := ih (now - 1)
      omega
    · exact ih now

/-- A runtime with a stack for so many levels, whatever has called. -/
@[reducible] def Runtime.ofLevels (most : Nat) : Runtime where
  levels := most
  comparing lhs rhs :=
    if most < lhs.depth && most < rhs.depth then some (endWording " in comparison") else none
  writing value :=
    if most < value.depth then some (endWording " while getting the repr of an object") else none
  reading cs :=
    if most < openMarks opensLevel (fun c => c == ']' || c == '\x7d') 0 cs then
      some (endWording " while decoding a JSON array from a unicode string")
    else none
  compiling cs := if most < openMarks (· == '(') (· == ')') 0 cs then some (endWording "") else none
  deep_of_comparing lhs rhs := by
    by_cases deep : most < lhs.depth ∧ most < rhs.depth <;> simp_all
  deep_of_writing value := by
    by_cases deep : most < value.depth <;> simp [deep]
  deep_of_reading cs := by
    have few := openMarks_le opensLevel (fun c => c == ']' || c == '\x7d') 0 cs
    split <;> simp
    omega
  deep_of_compiling cs := by
    have few := openMarks_le (· == '(') (· == ')') 0 cs
    rw [List.count]
    split <;> simp
    omega

/-! ### The objects behind values -/

/-- What the objects behind the values of a row offer as attributes: by the field, the attributes
read on the way, the value to which they lead and the name asked for. Equal values need not be one
object, so the value alone does not tell. -/
class Objects where
  attribute? : (field : String) → (path : List String) → Value → (name : String) → Option Value

/-- A runtime, and the objects behind a request and behind the fields of each row that it is
compared with. -/
class Host extends Runtime where
  request : Objects
  row : List Value → Objects

namespace Value

/-- The attributes of numbers and moments that are values, the same for all objects. -/
def attribute? (value : Value) (name : String) : Option Value :=
  lookupKey name <| match value with
    | .flag b => whole (if b then 1 else 0)
    | .int i => whole i
    | .real x => [("real", .real x), ("imag", .real (.finite false 0 0))]
    | .date day => ofDay day
    | .stamp moment => ofDay moment.date ++
        [("hour", .int moment.hour), ("minute", .int moment.minute),
        ("second", .int moment.second), ("microsecond", .int moment.microsecond)]
    | _ => []
where
  /-- The parts of a whole number as a complex number and as a fraction. -/
  whole (i : Int) : List (String × Value) :=
    [("real", .int i), ("imag", .int 0), ("numerator", .int i), ("denominator", .int 1)]
  /-- The parts of a day. -/
  ofDay (day : Time.Day) : List (String × Value) :=
    [("year", .int day.year), ("month", .int day.month), ("day", .int day.day)]

end Value

/-- Objects with the attributes of numbers and moments alone. -/
@[reducible] def Objects.plain : Objects where
  attribute? _ _ value name := value.attribute? name

/-- The runtime for which no other is named. -/
instance (priority := low) Runtime.usual : Runtime := .ofLevels 900

/-- The objects for which no others are named. -/
instance (priority := low) Objects.usual : Objects := .plain

/-- The host for which no other is named. -/
instance (priority := low) Host.usual : Host where
  toRuntime := .usual
  request := .plain
  row _ := .plain

end AccessControl
