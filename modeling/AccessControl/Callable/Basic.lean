import AccessControl.Value.Basic
import AccessControl.Error

/-! Functions that matchers call, and the faults of calls with too few or too many arguments. -/

namespace AccessControl

/-- A function from the arguments of a call to its value. -/
structure Callable where
  call : List Value → Except Error Value

/-- The title and the parameters of a function, as messages name them. -/
structure Signature where
  title : String
  parameters : List String
deriving Repr, DecidableEq

/-- The fault of a call with a number of arguments that is not the number of parameters. -/
def Signature.fault (signature : Signature) (given : Nat) : Error :=
  .argument <|
    if signature.parameters.length < given then
      .tooMany signature.title signature.parameters.length given
    else .missing signature.title (signature.parameters.drop given)

/-- The arguments as texts, unless one of them is something else. -/
def allTexts? : List Value → Option (List String)
  | [] => some []
  | .text s :: rest => (allTexts? rest).map (s :: ·)
  | _ :: _ => none

namespace Callable

/-- A function of two texts; arguments that are not all texts give `otherwise`, however many they
are. -/
def ofTwoTexts (title first second : String) (otherwise : Value)
    (body : String → String → Except Error Value) : Callable where
  call arguments :=
    match allTexts? arguments with
    | none => .ok otherwise
    | some [a, b] => body a b
    | some texts => .error (Signature.fault ⟨title, [first, second]⟩ texts.length)

/-- A function of three texts; arguments that are not all texts give `otherwise`, however many they
are. -/
def ofThreeTexts (title first second third : String) (otherwise : Value)
    (body : String → String → String → Except Error Value) : Callable where
  call arguments :=
    match allTexts? arguments with
    | none => .ok otherwise
    | some [a, b, c] => body a b c
    | some texts => .error (Signature.fault ⟨title, [first, second, third]⟩ texts.length)

end Callable

end AccessControl
