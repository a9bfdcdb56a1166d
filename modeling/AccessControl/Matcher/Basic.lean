import AccessControl.Value.Relation
import AccessControl.Text.Order

/-! Matchers: conjunctions of clauses over the fields of a request and of a rule, and their
texts. -/

namespace AccessControl

/-- A reference to a field of a schema, such as `r.sub`, and to attributes of its value. -/
structure FieldRef where
  schema : String
  name : String
  attributes : List String
deriving Repr, DecidableEq

/-- The text of a reference. -/
def FieldRef.text (ref : FieldRef) : String :=
  ".".intercalate (ref.schema :: ref.name :: ref.attributes)

/-- A constant of a matcher. -/
inductive Literal
  | text (s : String)
  | whole (i : Int)
  | real (x : Double)
deriving Repr, DecidableEq

/-- The value of a constant. -/
def Literal.value : Literal → Value
  | .text s => .text s
  | .whole i => .int i
  | .real x => .real x

/-- An argument of a call. -/
inductive Argument
  | field (ref : FieldRef)
  | literal (constant : Literal)
deriving Repr, DecidableEq

/-- The text of an argument. -/
def Argument.text : Argument → String
  | .field ref => ref.text
  | .literal constant => constant.value.shown

/-- A call of a function by its name. -/
structure Call where
  name : String
  arguments : List Argument
deriving Repr, DecidableEq

/-- The text of a call. -/
def Call.text (call : Call) : String :=
  call.name ++ "(" ++ ", ".intercalate (call.arguments.map Argument.text) ++ ")"

/-- A side of an equation or inequality. -/
inductive Operand
  | plain (argument : Argument)
  | call (c : Call)
deriving Repr, DecidableEq

/-- The text of an operand. -/
def Operand.text : Operand → String
  | .plain argument => argument.text
  | .call c => c.text

/-- A condition of a matcher. -/
inductive Clause
  | call (c : Call)
  | equation (lhs rhs : Operand) (negated : Bool)
  | inequality (symbol : Inequality) (lhs rhs : Operand)
deriving Repr, DecidableEq

/-- The text of a clause. -/
def Clause.text : Clause → String
  | .call c => c.text
  | .equation lhs rhs negated => lhs.text ++ (if negated then " != " else " == ") ++ rhs.text
  | .inequality symbol lhs rhs => lhs.text ++ " " ++ symbol.symbol ++ " " ++ rhs.text

/-- A matcher, with the text from which it was read. -/
structure Matcher where
  expression : String
  clauses : List Clause
deriving Repr, DecidableEq

/-- The schemas to which an argument refers. -/
def Argument.schemas : Argument → List String
  | .field ref => [ref.schema]
  | .literal _ => []

/-- The schemas to which an operand refers. -/
def Operand.schemas : Operand → List String
  | .plain argument => argument.schemas
  | .call c => c.arguments.flatMap Argument.schemas

/-- The schemas to which a clause refers. -/
def Clause.schemas : Clause → List String
  | .call c => c.arguments.flatMap Argument.schemas
  | .equation lhs rhs _ | .inequality _ lhs rhs => lhs.schemas ++ rhs.schemas

/-- The functions that an operand calls. -/
def Operand.functions : Operand → List String
  | .plain _ => []
  | .call c => [c.name]

/-- The functions that a clause calls. -/
def Clause.functions : Clause → List String
  | .call c => [c.name]
  | .equation lhs rhs _ | .inequality _ lhs rhs => lhs.functions ++ rhs.functions

namespace Matcher

/-- The schemas that the matcher reads, in order and each once. -/
def schemas (matcher : Matcher) : List String :=
  Text.sorted (Text.distinct (matcher.clauses.flatMap Clause.schemas))

/-- The functions that the matcher calls, in order and each once. -/
def functions (matcher : Matcher) : List String :=
  Text.sorted (Text.distinct (matcher.clauses.flatMap Clause.functions))

end Matcher

end AccessControl
