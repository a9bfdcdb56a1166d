import AccessControl.Callable.Builtin
import AccessControl.CommandLine.Arguments
import AccessControl.Config.Document
import AccessControl.Enforcer.Decide
import AccessControl.Model.Document
import AccessControl.Report.Basic
import AccessControl.Rule.Document

/-! What the command line does: decisions about requests, and checks of models. -/

namespace AccessControl.CommandLine

/-- What a command prints, and the code that it ends with. -/
structure Answer where
  code : Nat
  output : String
  errors : String
  -- An error that no line of its own tells of.
  uncaught : Option Error

/-- The code of a request that is allowed and of a model that is valid. -/
def allowCode : Nat := 0

/-- The code of a request that is denied, and of an error that no line tells of. -/
def denyCode : Nat := 1

/-- The code of an error. -/
def errorCode : Nat := 2

/-- Lines that each end in a line break. -/
def asLines (lines : List String) : String :=
  String.join (lines.map fun line => line ++ "\n")

/-- The line that tells of a message. -/
def errorLine (message : String) : String := "Error: " ++ message

/-- The line of a record, if it is shown: all are if that is asked for, and else only warnings. -/
def recordLine (isVerbose : Bool) (record : Record) : Option String :=
  if isVerbose then some (record.level.word ++ " " ++ record.source.name ++ ": " ++ record.text)
  else if record.level == .warning then some record.text
  else none

/-- What is printed, and the error that ends it before all is, if there is one. -/
structure Printed where
  output : String
  error : Option Error

/-- The packages of the command line: typer, which makes an invocation of arguments or has an answer
of its own, and Rich, which draws a report. -/
class Packages where
  parse : List String → Except Answer Invocation
  draw : Report → Printed

/-- Arguments in the usual forms, and reports drawn as they stand, without markup. -/
instance (priority := low) Packages.usual : Packages where
  parse arguments :=
    match Invocation.read arguments with
    | .ok invocation => .ok invocation
    | .error fault => .error ⟨errorCode, "", asLines [errorLine fault.message], none⟩
  draw report := ⟨report.text, none⟩

/-- What a command that comes to its end prints, and its code; an error in printing gets out. -/
structure Ending where
  code : Nat
  printed : Printed

/-- The answer of a command. Errors on the way to its end are told if they are reported, and any
other error gets out. -/
def Answer.ofLogged (isVerbose : Bool) (outcome : Logged Ending) : Answer :=
  let lines := outcome.records.filterMap (recordLine isVerbose)
  match outcome.result with
  | .ok ⟨code, output, none⟩ => ⟨code, output, asLines lines, none⟩
  | .ok ⟨_, output, some error⟩ => ⟨denyCode, output, asLines lines, some error⟩
  | .error error =>
    if error.isReported then ⟨errorCode, "", asLines (lines ++ [errorLine error.message]), none⟩
    else ⟨denyCode, "", asLines lines, some error⟩

/-- The answer when a file is not there. -/
def Answer.noFile (path : String) : Answer :=
  ⟨errorCode, "", asLines [errorLine ("File not found: " ++ path)], none⟩

section

variable [Host] [Document.Readers]

/-- The enforcer of a model and rules in files. -/
def loadEnforcer (files : Document.Files) (functions : Registry) (model policy : String)
    (config : Option String) : Logged Enforcer := do
  let config ← Logged.ofExcept <| match config with
    | some path => Config.ofFile files path
    | none => .ok Config.default
  let model ← Logged.ofExcept (Model.ofFile files model)
  let enforcer ← Enforcer.create functions config model
  let rules ← Logged.ofExcept (RuleDocument.ofFile files policy)
  enforcer.load rules.policies rules.groupings

/-- The report of the decision about a request. -/
def reportOf (files : Document.Files) (functions : Registry) (model policy : String)
    (config : Option String) (request : List String) : Logged Report := do
  let enforcer ← loadEnforcer files functions model policy config
  let decision ← enforcer.decide .plain "" (request.map .text)
  return ⟨decision, "p", enforcer.model.matcher⟩

end

/-- What is printed of a report: JSON if that is the format, and else the report if it explains the
decision, or a word. -/
def showReport [Packages] (explain : Bool) (format : String) (report : Report) : Printed :=
  if format == "json" then
    match report.json (some 2) with
    | .ok text => ⟨asLines [text], none⟩
    | .error error => ⟨"", some error⟩
  else if explain then Packages.draw report
  else ⟨asLines [if report.decision.isAllowed then "allow" else "deny"], none⟩

/-- The code for a decision. -/
def codeOf (decision : Decision) : Nat :=
  if decision.isAllowed then allowCode else denyCode

/-- The functions that a matcher calls and that there are not. -/
def unknownFunctions (functions : Registry) (model : Model) (matcher : Matcher) : List String :=
  matcher.functions.filter fun name => !functions.contains name && !model.isGroupingType name

/-- The warnings about functions that there are not. -/
def functionWarnings (functions : Registry) (model : Model)
    (matchers : List (String × Matcher)) : List String :=
  matchers.filterMap fun (name, matcher) =>
    let unknown := unknownFunctions functions model matcher
    if unknown.isEmpty then none
    else some ("Warning: matcher '" ++ name ++ "' calls unregistered functions: " ++
      ", ".intercalate unknown)

/-- The lines that tell of a valid model. -/
def modelLines (path : String) (model : Model) : List String :=
  ["Model " ++ Document.normalPath path ++ " is valid",
    "  Request: " ++ ", ".intercalate (model.requestFields "r"),
    "  Policy: " ++ ", ".intercalate (model.policyFields "p")] ++
    (if model.roles.isEmpty then []
      else ["  Roles: " ++ ", ".intercalate (model.roles.map (·.1))]) ++
    ["  Effect: " ++ model.effect, "  Matchers: " ++ intText model.matchers.length]

section

variable [Host] [Document.Readers]

/-- A check of a model. -/
def runValidate (files : Document.Files) (functions : Registry) (path : String) :
    Logged Ending := do
  let model ← Logged.ofExcept (Model.ofFile files path)
  let matchers ← Logged.ofExcept (Enforcer.readMatchers model.matchers)
  let lines := functionWarnings functions model matchers ++ modelLines path model
  return ⟨allowCode, asLines lines, none⟩

variable [Packages]

/-- What a command does with the files that it reads. -/
def Command.run (files : Document.Files) (functions : Registry) :
    Command → Logged Ending
  | .decide model policy config request explain format => do
    let report ← reportOf files functions model policy config request
    return ⟨codeOf report.decision, showReport explain format report⟩
  | .validate model => runValidate files functions model

/-- The answer of a command to what its files hold, if they are there. -/
def Invocation.answer (files : Document.Files) (functions : Registry) (invocation : Invocation) :
    Answer :=
  match files.missing? (invocation.command.paths.map Document.normalPath) with
  | .error error => ⟨denyCode, "", "", some error⟩
  | .ok (some path) => .noFile path
  | .ok none => .ofLogged invocation.isVerbose (invocation.command.run files functions)

/-- The answer to arguments. -/
def answer (files : Document.Files) (functions : Registry) (arguments : List String) : Answer :=
  match Packages.parse arguments with
  | .error given => given
  | .ok invocation => invocation.answer files functions

end

end AccessControl.CommandLine
