import AccessControl.Value.Text

/-! What can be wrong with a model, a configuration, or a request to a model. -/

namespace AccessControl

/-- Why a document gives no model. -/
inductive ModelFault
  | notMapping (kind : String)
  | sectionNotMapping (name : String)
  | unreadable (path : String) (reason : String)
  | unparsable (path : String)
deriving Repr, DecidableEq

/-- The wording of a model fault. -/
def ModelFault.message : ModelFault → String
  | .notMapping kind => "Model document must be a mapping, got " ++ kind
  | .sectionNotMapping name => "Section '" ++ name ++ "' must be a mapping"
  | .unreadable path reason => "Failed to read model file " ++ path ++ ": " ++ reason
  | .unparsable path => "Failed to parse model file " ++ path

/-- Why a model is not valid. -/
inductive ValidationFault
  | noRequest
  | noPolicy
  | noEffect
  | noMatcher
  | noFields (name : String)
  | repeatedField (name : String)
  | narrowRole (name : String)
  | undeclaredMatcher (name : String)
deriving Repr, DecidableEq

/-- The wording of a validation fault. -/
def ValidationFault.message : ValidationFault → String
  | .noRequest => "Model is missing request definition 'r'"
  | .noPolicy => "Model is missing policy definition 'p'"
  | .noEffect => "Model is missing policy effect 'e'"
  | .noMatcher => "Model is missing matcher 'm'"
  | .noFields name => "Definition '" ++ name ++ "' declares no fields"
  | .repeatedField name => "Definition '" ++ name ++ "' repeats a field"
  | .narrowRole name => "Role definition '" ++ name ++ "' needs at least two fields"
  | .undeclaredMatcher name => "Matcher '" ++ name ++ "' is not declared"

/-- The definition that a validation fault is about. -/
def ValidationFault.subject? : ValidationFault → Option String
  | .noFields name | .repeatedField name | .narrowRole name => some name
  | _ => none

/-- Why a request does not fit the model. -/
inductive RequestFault
  | undeclaredRequest (name : String)
  | width (given : Nat) (name : String) (fields : List String)
  | undeclaredPolicy (name : String)
deriving Repr, DecidableEq

/-- The wording of a request fault. -/
def RequestFault.message : RequestFault → String
  | .undeclaredRequest name => "Request definition '" ++ name ++ "' is not declared"
  | .width given name fields =>
    "Request has " ++ intText given ++ " values but '" ++ name ++ "' declares " ++
      intText fields.length ++ " (" ++ ", ".intercalate fields ++ ")"
  | .undeclaredPolicy name => "Policy definition '" ++ name ++ "' is not declared"

/-- The definition that a request fault is about. -/
def RequestFault.subject? : RequestFault → Option String
  | .width _ name _ => some name
  | _ => none

/-- Why a configuration is refused. -/
inductive ConfigFault
  | unknownKeys (keys : List String)
  | notFlag (name : String) (shown : String)
  | notWhole (name : String) (shown : String)
  | negative (name : String)
  | noWorkers
  | unreadable (path : String) (reason : String)
  | unparsable (path : String)
  | notMapping (path : String)
deriving Repr, DecidableEq

/-- The wording of a configuration fault. -/
def ConfigFault.message : ConfigFault → String
  | .unknownKeys keys => "Unknown configuration keys: " ++ ", ".intercalate keys
  | .notFlag name shown => "'" ++ name ++ "' must be a boolean, got " ++ shown
  | .notWhole name shown => "'" ++ name ++ "' must be an integer, got " ++ shown
  | .negative name => name ++ " must be non-negative"
  | .noWorkers => "max_workers must be at least 1"
  | .unreadable path reason => "Failed to load config from " ++ path ++ ": " ++ reason
  | .unparsable path => "Failed to load config from " ++ path
  | .notMapping path => "Config file " ++ path ++ " must contain a mapping"

end AccessControl
