import AccessControl.Value.Text

/-! What can be wrong with a matcher: its text, and its evaluation. -/

namespace AccessControl

/-- Why a text is not a matcher; positions count characters from the start of the text. -/
inductive SyntaxFault
  | unexpectedCharacter (character : Char) (position : Nat)
  | empty
  | unexpectedEnd
  | alternative (position : Nat)
  | negation (position : Nat)
  | grouping (position : Nat)
  | unexpectedToken (text : String) (position : Nat)
  | nestedCall (position : Nat)
  | functionName (name : String) (position : Nat)
  | separator (found : String) (position : Nat)
  | notCondition (operand : String) (position : Nat)
deriving Repr, DecidableEq

/-- The wording of a fault that is found at a position. -/
def atPosition (text : String) (position : Nat) : String :=
  text ++ " at position " ++ intText position

/-- The wording of a syntax fault. -/
def SyntaxFault.message : SyntaxFault → String
  | .unexpectedCharacter c position =>
    atPosition ("Unexpected character " ++ Text.quote (String.singleton c)) position
  | .empty => "Empty matcher expression"
  | .unexpectedEnd => "Unexpected end of expression at end of expression"
  | .alternative position => atPosition "Operator '||' is not supported" position
  | .negation position => atPosition "Negation '!' is not supported" position
  | .grouping position => atPosition "Grouping parentheses are not supported" position
  | .unexpectedToken text position => atPosition ("Unexpected token " ++ Text.quote text) position
  | .nestedCall position => atPosition "Nested function calls are not supported" position
  | .functionName name position => atPosition ("Invalid function name " ++ Text.quote name) position
  | .separator found position =>
    atPosition ("Expected ',' or ')', found " ++ Text.quote found) position
  | .notCondition operand position =>
    atPosition ("Operand " ++ operand ++ " is not a condition") position

/-- Why a matcher cannot be evaluated. -/
inductive EvaluationFault
  | unknownSection (name : String) (field : String)
  | undeclaredField (name : String) (schema : String)
  | missingAttribute (name : String) (field : String)
  | comparison (symbol : String)
  | failedCall (call : String) (reason : String)
  | unnamedValues (label : String)
deriving Repr, DecidableEq

/-- The wording of an evaluation fault. -/
def EvaluationFault.message : EvaluationFault → String
  | .unknownSection name field => "Unknown section '" ++ name ++ "' in " ++ field
  | .undeclaredField name schema => "Field '" ++ name ++ "' is not declared for '" ++ schema ++ "'"
  | .missingAttribute name field => "Cannot resolve attribute '" ++ name ++ "' of " ++ field
  | .comparison symbol => "Unsupported comparison operator '" ++ symbol ++ "'"
  | .failedCall call reason => call ++ " failed: " ++ reason
  | .unnamedValues label => label ++ " values given without " ++ label ++ " field names"

end AccessControl
