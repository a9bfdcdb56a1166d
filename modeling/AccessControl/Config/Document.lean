import AccessControl.Config.Basic
import AccessControl.Decimal.Reading
import AccessControl.Document.Files
import AccessControl.Value.Host

/-! Configurations read from mappings, files and environment variables. -/

namespace AccessControl

namespace Config

/-- The words that switch a flag on. -/
def trueWords : List String := ["true", "yes", "1", "on"]

/-- The words that switch a flag off. -/
def falseWords : List String := ["false", "no", "0", "off"]

/-- The words for no limit. -/
def noneWords : List String := ["", "none", "null"]

/-- The settings that are flags. -/
def flagNames : List String := ["enabled", "auto_build_role_links", "log_decisions"]

/-- A value that is no flag is refused with a message that shows it. -/
def refuseFlag [Runtime] (name : String) (given : Value) : Except Error Value := do
  throw (.config (.notFlag name (← given.writeShown)))

/-- A flag in words or as itself. -/
def readFlag [Runtime] (name : String) (given : Value) : Except Error Value :=
  match given with
  | .flag _ => .ok given
  | .text s =>
    let word := Text.lower (Text.trim s)
    if trueWords.contains word then .ok (.flag true)
    else if falseWords.contains word then .ok (.flag false)
    else refuseFlag name given
  | _ => refuseFlag name given

/-- A number in digits or as itself; a limit may also be given as none. -/
def readNumber (name : String) (given : Value) : Except Error Value :=
  match given with
  | .text s =>
    let word := Text.lower (Text.trim s)
    if name == "max_workers" && noneWords.contains word then .ok .null
    else
      match Decimal.readWhole word.toList with
      | .value n => .ok (.int n)
      | _ => .error (.config (.notWhole name given.shown))
  | _ => .ok given

/-- The settings with words read as what they mean. -/
def readSettings [Runtime] : List (String × Value) → Except Error (List (String × Value))
  | [] => .ok []
  | (name, given) :: rest => do
    let value ← if flagNames.contains name then readFlag name given else readNumber name given
    let more ← readSettings rest
    return (name, value) :: more

/-- The keys that something holds, all of which are texts. -/
def textKeys : List Value → Except Error (List String)
  | [] => .ok []
  | .text s :: rest => (textKeys rest).map (s :: ·)
  | key :: _ =>
    .error (.argument (.other (match key with
      | .list _ | .dict _ | .table _ => "unhashable type: '" ++ key.kindName ++ "'"
      | _ => "sequence item 0: expected str instance, " ++ key.kindName ++ " found")))

/-- The configuration of a mapping, which has no other keys than settings. -/
def ofValue [Runtime] (given : Value) : Except Error Config := do
  let keys ← textKeys (← given.items)
  let unknown := Text.sorted (Text.distinct (keys.filter fun key => !names.contains key))
  if !unknown.isEmpty then throw (.config (.unknownKeys unknown))
  create (← readSettings (← given.entries))

/-- The configuration in a file, at the top of its document or in a section of it. -/
def ofFile [Runtime] [Document.Readers] (files : Document.Files) (path : String) :
    Except Error Config := do
  let path := Document.normalPath path
  let document ← files.load path (fun reason => .config (.unreadable path reason))
    (.config (.unparsable path))
  match document.pairs? with
  | none => throw (.config (.notMapping path))
  | some pairs => ofValue ((lookupName "enforcer" pairs).getD document)

/-- The settings among environment variables, whose names are those of settings behind a
beginning. -/
def ofEnvironment [Runtime] (beginning : String) (given : List (String × String)) :
    Except Error Config :=
  ofValue (.dict (collectKeys (given.filterMap fun (title, value) =>
    if beginning.toList.isPrefixOf title.toList then
      let name := Text.lower (String.ofList (title.toList.drop beginning.length))
      if names.contains name then some (name, .text value) else none
    else none)))

/-- The beginning of the names of environment variables for which no other is asked. -/
def defaultBeginning : String := "GATEKEEPER_"

end Config

end AccessControl
