import AccessControl.Matcher.Parser
import AccessControl.Callable.Basic

/-! Evaluation of matchers: every clause holds for the values that the schemas name. -/

namespace AccessControl

/-- The fields of a schema and the values that they have, in the same order, with the objects behind
these. -/
structure Frame where
  fields : List String
  values : List Value
  [objects : Objects]

/-- The frames of schemas by their names. -/
abbrev Scope := List (String × Frame)

/-- The frames of a request and of a rule; if both have one name, it stands for the rule. -/
def Scope.ofRow (requestName : String) (request : Frame) (ruleName : String) (rule : Frame) :
    Scope :=
  insertKey ruleName rule [(requestName, request)]

namespace FieldRef

/-- The value of a field before its attributes; a field without a value is empty. -/
def base (frame : Frame) (ref : FieldRef) : Except Error Value :=
  match frame.fields.findIdx? (· == ref.name) with
  | some index => .ok (frame.values[index]?.getD (.text ""))
  | none =>
    -- The effect of a rule that does not declare one is to allow.
    if ref.schema.toList.head? == some 'p' && ref.name == "eft" then .ok (.text "allow")
    else .error (.evaluation (.undeclaredField ref.name ref.schema))

/-- What stands under a name in a mapping, or what the object behind any other value offers under
it; a record has attributes of its own besides. The path has the attributes read so far, the last
one first. -/
def attribute? (ref : FieldRef) (frame : Frame) (path : List String) (value : Value)
    (name : String) : Option Value :=
  match value.pairs? with
  | some pairs => lookupName name pairs
  | none =>
    (frame.objects.attribute? ref.name path value name).or <|
      match value with
      | .record _ attributes => lookupKey name attributes
      | _ => none

/-- The attribute of a value, with the path to it. -/
def member (ref : FieldRef) (frame : Frame) (reached : List String × Value) (name : String) :
    Except Error (List String × Value) :=
  match ref.attribute? frame reached.1 reached.2 name with
  | some value => .ok (name :: reached.1, value)
  | none => .error (.evaluation (.missingAttribute name ref.text))

/-- The value to which a reference leads. -/
def resolve (scope : Scope) (ref : FieldRef) : Except Error Value :=
  match lookupKey ref.schema scope with
  | none => .error (.evaluation (.unknownSection ref.schema ref.text))
  | some frame => do
    let value ← ref.base frame
    return (← ref.attributes.foldlM (ref.member frame) ([], value)).2

end FieldRef

/-- What evaluation depends on: the functions by name, the frames of the schemas and the runtime. -/
structure Environment where
  function? : String → Option Callable
  scope : Scope
  [runtime : Runtime]

/-- The value of an argument. -/
def Argument.evaluate (environment : Environment) : Argument → Except Error Value
  | .field ref => ref.resolve environment.scope
  | .literal constant => .ok constant.value

/-- The value of a call; whatever goes wrong inside the function is a fault of the call. -/
def Call.evaluate (environment : Environment) (call : Call) : Except Error Value :=
  match environment.function? call.name with
  | none => .error (.unknownFunction call.name)
  | some function => do
    let arguments ← call.arguments.mapM (Argument.evaluate environment)
    match function.call arguments with
    | .ok value => return value
    | .error error => throw (.evaluation (.failedCall call.text error.message))

/-- The value of an operand. -/
def Operand.evaluate (environment : Environment) : Operand → Except Error Value
  | .plain argument => argument.evaluate environment
  | .call c => c.evaluate environment

/-- The clause holds. -/
def Clause.holds (environment : Environment) : Clause → Except Error Bool
  | .call c => (c.evaluate environment).map Value.isTrue
  | .equation lhs rhs negated => do
    let left ← lhs.evaluate environment
    let right ← rhs.evaluate environment
    return (← @Value.looselyEqual environment.runtime left right) != negated
  | .inequality symbol lhs rhs => do
    let left ← lhs.evaluate environment
    let right ← rhs.evaluate environment
    @Value.related environment.runtime symbol left right

/-- All clauses hold; those after one that does not are not evaluated. -/
def allHold (environment : Environment) : List Clause → Except Error Bool
  | [] => .ok true
  | clause :: rest => do
    if ← clause.holds environment then allHold environment rest else return false

/-- The matcher holds. -/
def Matcher.holds (environment : Environment) (matcher : Matcher) : Except Error Bool :=
  allHold environment matcher.clauses

/-- Values given for a schema, with the names of their fields or in the order of fields named
apart. -/
inductive Row
  | named (entries : List (String × Value))
  | positional (values : List Value) (fields : Option (List String))

/-- The values of a row. -/
def Row.values : Row → List Value
  | .named entries => entries.map (·.2)
  | .positional values _ => values

/-- The frame of given values; `label` is what they are called when their fields are not named. -/
def Row.frame [Objects] (label : String) : Row → Except Error Frame
  | .named entries => .ok ⟨entries.map (·.1), entries.map (·.2)⟩
  | .positional values (some fields) => .ok ⟨fields, values⟩
  | .positional _ none => .error (.evaluation (.unnamedValues label))

/-- The matcher that a text writes holds for a request and a rule. -/
def holdsFor [host : Host] (function? : String → Option Callable) (expression : String)
    (request rule : Row) : Except Error Bool := do
  let request ← @request.frame host.request "request"
  let rule ← @rule.frame (host.row rule.values) "policy"
  let matcher ← Matcher.read expression
  matcher.holds { function?, scope := Scope.ofRow "r" request "p" rule, runtime := host.toRuntime }

end AccessControl
