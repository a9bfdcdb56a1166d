import AccessControl.Value.Text

/-! What can be wrong with an argument, a number, or a look-up. -/

namespace AccessControl

/-- Why a function or an operation does not take what it is given. -/
inductive ArgumentFault
  | tooMany (function : String) (taken : Nat) (given : Nat)
  | missing (function : String) (names : List String)
  | tooManyDomains (given : Nat)
  | notIterable (kind : String)
  | notSpread (kind : String)
  | notComparable (kind : String)
  | notWhole (kind : String)
  | notFunction (name : String)
  | unexpectedKeyword (name : String)
  | notSerializable (kind : String)
  | noLength (kind : String)
  | other (message : String)
deriving Repr, DecidableEq

/-- Names in a row, each between quotes, with a word before the last. -/
def enumerated : List String → String
  | [] => ""
  | [a] => "'" ++ a ++ "'"
  | [a, b] => "'" ++ a ++ "' and '" ++ b ++ "'"
  | names =>
    ", ".intercalate (names.dropLast.map fun name => "'" ++ name ++ "'") ++
      ", and '" ++ names.getLastD "" ++ "'"

/-- A count with its noun, which takes an `s` unless the count is one. -/
def counted (count : Nat) (noun : String) : String :=
  intText count ++ " " ++ noun ++ (if count == 1 then "" else "s")

/-- The wording of an argument fault. -/
def ArgumentFault.message : ArgumentFault → String
  | .tooMany function taken given =>
    function ++ "() takes " ++ counted taken "positional argument" ++ " but " ++ intText given ++
      (if given == 1 then " was given" else " were given")
  | .missing function names =>
    function ++ "() missing " ++ counted names.length "required positional argument" ++ ": " ++
      enumerated names
  | .tooManyDomains given => "g() takes at most 3 arguments (" ++ intText given ++ " given)"
  | .notIterable kind => "'" ++ kind ++ "' object is not iterable"
  | .notSpread kind => "Value after * must be an iterable, not " ++ kind
  | .notComparable kind => "'<' not supported between instances of '" ++ kind ++ "' and 'int'"
  | .notWhole kind => "'" ++ kind ++ "' object cannot be interpreted as an integer"
  | .notFunction name => "Function '" ++ name ++ "' is not callable"
  | .unexpectedKeyword name =>
    "EnforcerConfig.__init__() got an unexpected keyword argument '" ++ name ++ "'"
  | .notSerializable kind => "Object of type " ++ kind ++ " is not JSON serializable"
  | .noLength kind => "object of type '" ++ kind ++ "' has no len()"
  | .other message => message

/-- Why a number cannot be used. -/
inductive NumberFault
  | tooLargeForDouble
  | repetitionTooLarge
  | tooManyDigits (digits : Nat)
  | tooLongToWrite
  | bothAlphabets
  | cacheSize (size : Int)
deriving Repr, DecidableEq

/-- The wording of a number fault. -/
def NumberFault.message : NumberFault → String
  | .tooLargeForDouble => "int too large to convert to float"
  | .repetitionTooLarge => "the repetition number is too large"
  | .tooManyDigits digits =>
    "Exceeds the limit (4300 digits) for integer string conversion: value has " ++ intText digits ++
      " digits; use sys.set_int_max_str_digits() to increase the limit"
  | .tooLongToWrite =>
    "Exceeds the limit (4300 digits) for integer string conversion; " ++
      "use sys.set_int_max_str_digits() to increase the limit"
  | .bothAlphabets => "ASCII and UNICODE flags are incompatible"
  | .cacheSize size => "cache_size must be positive, got " ++ intText size

/-- Which position or name has nothing stored under it. -/
inductive LookupFault
  | position (container : String)
  | key (name : String)
  | attribute (kind : String) (name : String)
deriving Repr, DecidableEq

/-- The wording of a lookup fault. -/
def LookupFault.message : LookupFault → String
  | .position container => container ++ " index out of range"
  | .key name => Text.quote name
  | .attribute kind name => "'" ++ kind ++ "' object has no attribute '" ++ name ++ "'"

end AccessControl
