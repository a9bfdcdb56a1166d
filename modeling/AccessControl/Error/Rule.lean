import AccessControl.Value.Text

/-! What can be wrong with rules, with documents of them, and with role managers. -/

namespace AccessControl

/-- Why a role manager cannot be set up. -/
inductive RoleFault
  | negativeLimit (limit : String)
  | notFunction (name : String)
  | notDomainFunction (name : String)
deriving Repr, DecidableEq

/-- The wording of a role fault. -/
def RoleFault.message : RoleFault → String
  | .negativeLimit limit => "max_hierarchy_level must be non-negative, got " ++ limit
  | .notFunction name => "Matching function '" ++ name ++ "' is not callable"
  | .notDomainFunction name => "Domain matching function '" ++ name ++ "' is not callable"

/-- Why a rule or a set of rules is refused. -/
inductive PolicyFault
  | ruleIsText
  | emptyRule
  | counts (old : Nat) (new : Nat)
  | undeclaredPolicy (name : String)
  | undeclaredGrouping (name : String)
  | noMatchingFunctions (name : String)
  | unreadable (path : String) (reason : String)
  | unparsable (path : String)
  | notMapping (path : String)
  | sectionNotMapping (name : String) (path : String)
  | rulesNotLists (key : Key) (path : String)
deriving Repr, DecidableEq

/-- The wording of a policy fault. -/
def PolicyFault.message : PolicyFault → String
  | .ruleIsText => "A rule must be a sequence of fields, not a string"
  | .emptyRule => "A rule must have at least one field"
  | .counts old new =>
    "Cannot update " ++ intText old ++ " rules with " ++ intText new ++ " replacements"
  | .undeclaredPolicy name => "Policy type '" ++ name ++ "' is not declared in the model"
  | .undeclaredGrouping name => "Grouping type '" ++ name ++ "' is not declared in the model"
  | .noMatchingFunctions name =>
    "Role manager for '" ++ name ++ "' does not support matching functions"
  | .unreadable path reason => "Failed to load policy from " ++ path ++ ": " ++ reason
  | .unparsable path => "Failed to load policy from " ++ path
  | .notMapping path => "Policy document " ++ path ++ " must contain a mapping"
  | .sectionNotMapping name path => "'" ++ name ++ "' in " ++ path ++
    " must map types to rule lists"
  | .rulesNotLists key path =>
    "Rules for '" ++ key.asText ++ "' in " ++ path ++ " must be a list of lists"

end AccessControl
