import AccessControl.Value.Bound
import AccessControl.Value.Parts
import AccessControl.Text.Order

/-! The configuration of an enforcer. -/

namespace AccessControl

/-- How an enforcer works. A flag is whatever value counts as true or false. -/
structure Config where
  -- Requests are decided; otherwise all are allowed.
  enabled : Value
  -- Changes of grouping rules change the links of roles.
  autoBuildRoleLinks : Value
  -- The most steps between a name and its role.
  maxHierarchyLevel : Bound
  -- Larger batches are worked on side by side.
  batchParallelThreshold : Bound
  -- The most workers for a batch.
  maxWorkers : Option Bound
  -- Every decision leaves a record.
  logDecisions : Value
deriving Repr

namespace Config

/-- The configuration for which nothing is asked. -/
def default : Config :=
  ⟨.flag true, .flag true, .whole 10, .whole 10, none, .flag false⟩

/-- The names of the settings. -/
def names : List String := [
  "enabled", "auto_build_role_links", "max_hierarchy_level", "batch_parallel_threshold",
  "max_workers", "log_decisions"]

/-- The bound that a setting gives. -/
def bound (given : Value) : Except Error Bound :=
  match Bound.ofValue? given with
  | some bound => .ok bound
  | none => .error (.argument (.notComparable given.kindName))

/-- A bound that is not less than the least one. -/
def boundFrom (least : Int) (fault : ConfigFault) (given : Value) : Except Error Bound := do
  let bound ← bound given
  if bound.isBelow least then throw (.config fault) else return bound

/-- The configuration of settings by name, where the others stay as they are by default. -/
def create (settings : List (String × Value)) : Except Error Config := do
  match settings.find? fun setting => !names.contains setting.1 with
  | some setting => throw (.argument (.unexpectedKeyword setting.1))
  | none =>
    let get (name : String) (otherwise : Value) := (lookupKey name settings).getD otherwise
    let level ← boundFrom 0 (.negative "max_hierarchy_level")
      (get "max_hierarchy_level" default.maxHierarchyLevel.value)
    let threshold ← boundFrom 0 (.negative "batch_parallel_threshold")
      (get "batch_parallel_threshold" default.batchParallelThreshold.value)
    let workers ← match get "max_workers" .null with
      | .null => pure none
      | given => do pure (some (← boundFrom 1 .noWorkers given))
    return {
      enabled := get "enabled" default.enabled
      autoBuildRoleLinks := get "auto_build_role_links" default.autoBuildRoleLinks
      maxHierarchyLevel := level
      batchParallelThreshold := threshold
      maxWorkers := workers
      logDecisions := get "log_decisions" default.logDecisions }

/-- The settings of a configuration. -/
def settings (config : Config) : List (String × Value) := [
  ("enabled", config.enabled),
  ("auto_build_role_links", config.autoBuildRoleLinks),
  ("max_hierarchy_level", config.maxHierarchyLevel.value),
  ("batch_parallel_threshold", config.batchParallelThreshold.value),
  ("max_workers", (config.maxWorkers.map Bound.value).getD .null),
  ("log_decisions", config.logDecisions)]

/-- The role links follow the grouping rules. -/
def buildsLinks (config : Config) : Bool := config.autoBuildRoleLinks.isTrue

end Config

end AccessControl
