import AccessControl.Text.Trim

/-! The arguments of the command line: commands with their paths, request values and options. -/

namespace AccessControl.CommandLine

/-- The options. -/
inductive Switch
  | verbose
  | explain
  | format
  | config
deriving Repr, DecidableEq

/-- The name of an option. -/
def Switch.name : Switch → String
  | .verbose => "verbose"
  | .explain => "explain"
  | .format => "format"
  | .config => "config"

/-- The letter of an option. -/
def Switch.letter : Switch → Char
  | .verbose => 'v'
  | .explain => 'e'
  | .format => 'f'
  | .config => 'c'

/-- The option has a value. -/
def Switch.takesValue : Switch → Bool
  | .verbose | .explain => false
  | .format | .config => true

/-- Why arguments are no invocation. -/
inductive UsageFault
  | unknownOption (name : String)
  | noValue (name : String)
  | needlessValue (name : String)
  | noCommand
  | unknownCommand (name : String)
  | missingArgument (name : String)
  | extraArgument (argument : String)
deriving Repr, DecidableEq

/-- The wording of a usage fault. -/
def UsageFault.message : UsageFault → String
  | .unknownOption name => "No such option: " ++ name
  | .noValue name => "Option '" ++ name ++ "' requires an argument."
  | .needlessValue name => "Option '" ++ name ++ "' does not take a value."
  | .noCommand => "Missing command."
  | .unknownCommand name => "No such command '" ++ name ++ "'."
  | .missingArgument name => "Missing argument '" ++ name ++ "'."
  | .extraArgument argument => "Got unexpected extra argument (" ++ argument ++ ")"

/-- An option with its value, which is empty for one that has none. -/
abbrev Setting := Switch × String

/-- The options that one argument sets, and the one of them whose value is the next argument. -/
structure Settings where
  found : List Setting
  waiting : Option Switch

/-- The options that letters behind a hyphen set; what follows the letter of a value is that
value. -/
def readLetters (allowed : List Switch) : List Char → Except UsageFault Settings
  | [] => .ok ⟨[], none⟩
  | c :: rest =>
    match allowed.find? fun option => option.letter == c with
    | none => .error (.unknownOption (String.ofList ['-', c]))
    | some option =>
      if !option.takesValue then do
        let more ← readLetters allowed rest
        return { more with found := (option, "") :: more.found }
      else if rest.isEmpty then .ok ⟨[], some option⟩
      else .ok ⟨[(option, String.ofList rest)], none⟩

/-- The option that a name behind two hyphens sets; its value may follow behind an equality sign. -/
def readName (allowed : List Switch) (cs : List Char) : Except UsageFault Settings :=
  let (name, value) := match Text.splitAtFirst '=' cs with
    | some (name, value) => (String.ofList name, some (String.ofList value))
    | none => (String.ofList cs, none)
  match allowed.find? fun option => option.name == name with
  | none => .error (.unknownOption ("--" ++ name))
  | some option =>
    match option.takesValue, value with
    | true, some value => .ok ⟨[(option, value)], none⟩
    | true, none => .ok ⟨[], some option⟩
    | false, some _ => .error (.needlessValue ("--" ++ name))
    | false, none => .ok ⟨[(option, "")], none⟩

/-- The options that an argument sets, if it sets any. -/
def readSettings? (allowed : List Switch) (argument : String) :
    Option (Except UsageFault Settings) :=
  match argument.toList with
  | '-' :: '-' :: name => some (readName allowed name)
  | '-' :: c :: rest => some (readLetters allowed (c :: rest))
  | _ => none

/-- The options among arguments, and the other arguments; `stops` ends the options at the first of
those. -/
def scan (allowed : List Switch) (stops : Bool) :
    List String → Except UsageFault (List Setting × List String)
  | [] => .ok ([], [])
  | argument :: rest =>
    if argument == "--" then .ok ([], rest)
    else
      match readSettings? allowed argument with
      | none =>
        if stops then .ok ([], argument :: rest)
        else do
          let (settings, others) ← scan allowed stops rest
          return (settings, argument :: others)
      | some (.error fault) => .error fault
      | some (.ok ⟨found, none⟩) => do
        let (settings, others) ← scan allowed stops rest
        return (found ++ settings, others)
      | some (.ok ⟨found, some option⟩) =>
        match rest with
        | [] => .error (.noValue ("--" ++ option.name))
        | value :: rest => do
          let (settings, others) ← scan allowed stops rest
          return (found ++ (option, value) :: settings, others)

/-- The value of an option that is set last. -/
def lastValue? (settings : List Setting) (option : Switch) : Option String :=
  (settings.reverse.find? fun setting => setting.1 == option).map (·.2)

/-- A command with its paths and values; a decision is explained, and shown in a format. -/
inductive Command
  | decide (model policy : String) (config : Option String) (request : List String)
    (explain : Bool) (format : String)
  | validate (model : String)
deriving Repr, DecidableEq

/-- A command and whether all records are shown. -/
structure Invocation where
  isVerbose : Bool
  command : Command
deriving Repr, DecidableEq

/-- The format for which no other is asked. -/
def consoleFormat : String := "console"

/-- A command that decides a request, of its arguments without options. -/
def readDecide (settings : List Setting) (explain : Bool) (format : String) :
    List String → Except UsageFault Command
  | [] => .error (.missingArgument "MODEL")
  | [_] => .error (.missingArgument "POLICY")
  | [_, _] => .error (.missingArgument "REQUEST...")
  | model :: policy :: request =>
    .ok (.decide model policy (lastValue? settings .config) request explain format)

/-- The command of a name with its arguments. -/
def readCommand (name : String) (arguments : List String) : Except UsageFault Command := do
  if name == "enforce" then
    let (settings, others) ← scan [.explain, .format, .config] false arguments
    readDecide settings (lastValue? settings .explain).isSome
      ((lastValue? settings .format).getD consoleFormat) others
  else if name == "explain" then
    let (settings, others) ← scan [.config] false arguments
    readDecide settings true consoleFormat others
  else if name == "validate" then
    let (_, others) ← scan [] false arguments
    match others with
    | [] => throw (.missingArgument "MODEL")
    | [model] => return .validate model
    | _ :: extra :: _ => throw (.extraArgument extra)
  else throw (.unknownCommand name)

/-- The invocation of arguments. -/
def Invocation.read (arguments : List String) : Except UsageFault Invocation := do
  let (settings, others) ← scan [.verbose] true arguments
  match others with
  | [] => throw .noCommand
  | name :: rest =>
    let command ← readCommand name rest
    return ⟨(lastValue? settings .verbose).isSome, command⟩

/-- The paths that a command reads. -/
def Command.paths : Command → List String
  | .decide model policy config _ _ _ => model :: policy :: config.toList
  | .validate model => [model]

end AccessControl.CommandLine
