import AccessControl.Error.Argument
import AccessControl.Error.Matcher
import AccessControl.Error.Model
import AccessControl.Error.Rule

/-! Everything that can go wrong, by cause, with the wording of each cause. -/

namespace AccessControl

/-- What went wrong, and for a rule also the type it was given for. -/
inductive Error
  | syntaxFault (fault : SyntaxFault) (expression : String)
  | evaluation (fault : EvaluationFault)
  | unknownFunction (name : String)
  | model (fault : ModelFault)
  | validation (fault : ValidationFault)
  | request (fault : RequestFault)
  | role (fault : RoleFault)
  | policy (fault : PolicyFault) (ptype : Option String)
  | config (fault : ConfigFault)
  | argument (fault : ArgumentFault)
  | number (fault : NumberFault)
  | lookup (fault : LookupFault)
  | crossedGroup
  | encoding (message : String)
  | raised (kind : String) (message : String)
deriving Repr, DecidableEq

namespace Error

/-- The wording of an error. -/
def message : Error → String
  | .syntaxFault fault _ => fault.message
  | .evaluation fault => fault.message
  | .unknownFunction name => "Unknown function '" ++ name ++ "'"
  | .model fault => fault.message
  | .validation fault => fault.message
  | .request fault => fault.message
  | .role fault => fault.message
  | .policy fault _ => fault.message
  | .config fault => fault.message
  | .argument fault => fault.message
  | .number fault => fault.message
  | .lookup fault => fault.message
  | .crossedGroup =>
    "The span of capturing group is wrong, please report a bug for the re module."
  | .encoding message => message
  | .raised _ message => message

/-- The definition or rule type that an error is about. -/
def subject? : Error → Option Value
  | .validation fault => fault.subject?.map .text
  | .request fault => fault.subject?.map .text
  | .policy (.rulesNotLists .null _) _ => none
  | .policy (.rulesNotLists key _) _ => some key.value
  | .policy _ ptype => ptype.map .text
  | _ => none

/-- The matcher text in which an error was found. -/
def expression? : Error → Option String
  | .syntaxFault _ expression => some expression
  | _ => none

/-- The error comes from a matcher: its text is not one, or it cannot be evaluated. -/
def ofMatcher : Error → Bool
  | .syntaxFault .. | .evaluation _ | .unknownFunction _ => true
  | _ => false

/-- The error is one that the command line reports in a line of its own. -/
def isReported : Error → Bool
  | .argument _ | .number _ | .lookup _ | .crossedGroup | .encoding _ | .raised .. => false
  | _ => true

end Error

end AccessControl
