import AccessControl.Document.Yaml.Reader
import AccessControl.Text.Decoding
import AccessControl.Text.Lower
import AccessControl.Error

/-! Documents in files: JSON by the name of the file, and else YAML. -/

namespace AccessControl.Document

/-- What stands under a name in a directory. A closed file cannot be opened, and of a hidden one the
system does not tell whether it is there: it has a fault of some number, with its wording and, if it
is hidden, its kind. -/
inductive File
  | octets (content : List Nat)
  | directory
  | closed (number : Nat) (wording : String)
  | hidden (number : Nat) (wording kind : String)
deriving Repr, DecidableEq

/-- YAML is read with the reader of plain documents, and private characters stand for surrogates. -/
instance (priority := low) Readers.usual : Readers where
  yaml := Yaml.readDocument
  unpaired unit := Char.ofNat (0x100000 + unit)

/-- The files that can be read, by their paths. -/
abbrev Files := List (String × File)

/-- A path without empty parts and without parts that stay in place. -/
def normalPath (path : String) : String :=
  let parts := (Text.splitOn '/' path.toList).filter fun part => !part.isEmpty && part != ['.']
  let body := String.ofList (['/'].intercalate parts)
  if path.toList.head? == some '/' then "/" ++ body else if body == "" then "." else body

/-- The part of a name from its last point on, which stands neither first nor last. -/
def suffix (path : String) : String :=
  let name := ((Text.splitOn '/' path.toList).getLast?).getD []
  let tail := (name.reverse.takeWhile (· != '.')).reverse
  if tail.isEmpty || name.length ≤ tail.length + 1 then "" else String.ofList ('.' :: tail)

/-- Why there is no text under a name. -/
inductive ReadFault
  | system (reason : String)
  | decoding (fault : Text.DecodingFault)
deriving Repr, DecidableEq

/-- The path of something inside the directory of another path. -/
def isInside (directory path : String) : Bool :=
  (directory ++ "/").toList.isPrefixOf path.toList

/-- What stands under a path; a directory stands there if a file stands inside it. -/
def Files.find? (files : Files) (path : String) : Option File :=
  match lookupKey path files with
  | some file => some file
  | none =>
    if path == "." || files.any fun entry => isInside path entry.1 then some .directory else none

/-- The message of a fault of the system, with its number, its wording and the path. -/
def systemMessage (number : Nat) (wording path : String) : String :=
  "[Errno " ++ intText number ++ "] " ++ wording ++ ": " ++ Text.quote path

/-- A fault of the system. -/
def systemFault (number : Nat) (wording path : String) : ReadFault :=
  .system (systemMessage number wording path)

/-- Something stands under a path; the system need not tell. -/
def Files.exists (files : Files) (path : String) : Except Error Bool :=
  match files.find? path with
  | some (.hidden number wording kind) => .error (.raised kind (systemMessage number wording path))
  | some _ => .ok true
  | none => .ok false

/-- The first of the paths under which nothing stands. -/
def Files.missing? (files : Files) : List String → Except Error (Option String)
  | [] => .ok none
  | path :: rest => do
    if ← files.exists path then missing? files rest else return some path

/-- The text of a file. -/
def Files.readText (files : Files) (path : String) : Except ReadFault (List Char) :=
  match files.find? path with
  | none =>
    if files.any fun entry => isInside entry.1 path then
      .error (systemFault 20 "Not a directory" path)
    else .error (systemFault 2 "No such file or directory" path)
  | some .directory => .error (systemFault 21 "Is a directory" path)
  | some (.closed number wording) | some (.hidden number wording _) =>
    .error (systemFault number wording path)
  | some (.octets content) =>
    match Text.decode content with
    | .ok cs => .ok (Text.unifyBreaks cs)
    | .error fault => .error (.decoding fault)

/-- The value of a document by its path; a YAML document that counts as false is an empty
mapping. -/
def parse [Runtime] [Readers] (path : String) (cs : List Char) : Except Fault Value :=
  if Text.lower (suffix path) == ".json" then readJson cs
  else do
    let value ← Readers.yaml cs
    return if value.isTrue then value else .dict []

/-- The value of the document in a file, where the two kinds of faults have errors of their own. -/
def Files.load [Runtime] [Readers] (files : Files) (path : String) (unreadable : String → Error)
    (unparsable : Error) : Except Error Value :=
  match files.readText path with
  | .error (.system reason) => .error (unreadable reason)
  | .error (.decoding fault) => .error (.encoding fault.message)
  | .ok cs =>
    match parse path cs with
    | .ok value => .ok value
    | .error .malformed => .error unparsable
    | .error (.tooManyDigits digits) => .error (.number (.tooManyDigits digits))
    | .error (.noDigits base) =>
      .error
        (.raised "ValueError" ("invalid literal for int() with base " ++ intText base ++ ": ''"))
    | .error (.noMoment message) => .error (.raised "ValueError" message)
    | .error (.other kind message) => .error (.raised kind message)

end AccessControl.Document
