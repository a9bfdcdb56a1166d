import AccessControl.Callable.Registry
import AccessControl.Network.Block
import AccessControl.Pattern.Glob
import AccessControl.Pattern.Path
import AccessControl.Regex.Reader
import AccessControl.Regex.Search
import AccessControl.Time.Moment
import AccessControl.Value.Host

/-! The functions that every matcher may call: tests of paths, globs, addresses and times. -/

namespace AccessControl

namespace Callable

/-- A test of two texts that always has an answer. -/
def ofTest (title first second : String) (test : List Char → List Char → Bool) : Callable :=
  ofTwoTexts title first second (.flag false) fun a b => .ok (.flag (test a.toList b.toList))

/-- A test of two texts that may fail. -/
def ofPartialTest (title first second : String)
    (test : List Char → List Char → Except Error Bool) : Callable :=
  ofTwoTexts title first second (.flag false) fun a b => (test a.toList b.toList).map .flag

/-- The fault of a regular expression that is refused for more than its form. -/
def regexError : Regex.Fault → Option Error
  | .malformed => none
  | .repetitionTooLarge => some (.number .repetitionTooLarge)
  | .tooManyDigits digits => some (.number (.tooManyDigits digits))
  | .bothAlphabets => some (.number .bothAlphabets)

/-- The regular expression occurs in the text; a text that is none occurs nowhere. -/
def occurs [Runtime] (text pattern : List Char) : Except Error Bool :=
  match Runtime.compiling pattern with
  | some wording => .error (.tooDeep wording)
  | none =>
    match Regex.read pattern with
    | .ok expression =>
      match expression.node.search expression.ascii text.toArray with
      | .found => .ok true
      | .missing => .ok false
      | .crossed => .error .crossedGroup
    | .error fault =>
      match regexError fault with
      | some error => .error error
      | none => .ok false

/-- The part of a key that the star of a pattern stands for. -/
def starPart : Callable :=
  ofTwoTexts "key_get" "key1" "key2" (.text "") fun key pattern =>
    .ok (.text (String.ofList (starValue key.toList pattern.toList)))

/-- The part of a key that a parameter of a pattern stands for. -/
def paramPart (title : String) (read : List Char → Pattern) : Callable :=
  ofThreeTexts title "key1" "key2" "name" (.text "") fun key pattern name =>
    .ok (.text (String.ofList (paramValue (read pattern.toList) key.toList name.toList)))

end Callable

open Callable

/-- The functions that are always there; the present is what windows of time are compared with. -/
def Registry.builtin [Runtime] (now : Time.Moment) : Registry := ⟨[
  ("keyMatch", ofTest "key_match" "key1" "key2" matchesStars),
  ("keyMatch2", ofTest "key_match2" "key1" "key2" matchesColons),
  ("keyMatch3", ofTest "key_match3" "key1" "key2" matchesBraces),
  ("keyMatch4", ofTest "key_match4" "key1" "key2" matchesEqualBraces),
  ("keyMatch5", ofTest "key_match5" "key1" "key2" matchesWildcards),
  ("keyGet", starPart),
  ("keyGet2", paramPart "key_get2" (Pattern.ofColons none)),
  ("keyGet3", paramPart "key_get3" (Pattern.ofBraces none)),
  ("globMatch", ofTest "glob_match" "key1" "key2" (matchesGlob ⟨false, false⟩)),
  ("globMatch2", ofTest "glob_match2" "key1" "key2" (matchesGlob ⟨true, false⟩)),
  ("globMatch3", ofTest "glob_match3" "key1" "key2" (matchesGlob ⟨true, true⟩)),
  ("regexMatch", ofPartialTest "regex_match" "key1" "key2" occurs),
  ("ipMatch", ofPartialTest "ip_match" "ip1" "ip2" (Network.inBlock true)),
  ("ipMatch2", ofPartialTest "ip_match2" "ip1" "ip2" (Network.inBlock false)),
  ("ipMatch3", ofPartialTest "ip_match3" "ip1" "ip2" Network.inRange),
  ("timeMatch", ofTwoTexts "time_match" "start" "end" (.flag false) fun start stop =>
    .ok (.flag (Time.inWindow now start stop)))]⟩

end AccessControl
