import AccessControl.Text.Classes
import AccessControl.Text.IdentifierTable

/-! Identifiers: names made of letters, digits and marks of any script. -/

namespace AccessControl.Text

/-- An identifier may start with the character. -/
def startsIdentifier (c : Char) : Bool :=
  (isWord c && !isDecimalDigit c && !outsideIdentifiers.contains c &&
      !followingLetters.contains c) ||
    startingSigns.contains c

/-- An identifier may go on with the character. -/
def continuesIdentifier (c : Char) : Bool :=
  (isWord c && !outsideIdentifiers.contains c) || followingSigns.contains c

/-- The characters form an identifier. -/
def isIdentifier (cs : List Char) : Bool :=
  match cs with
  | [] => false
  | c :: rest => startsIdentifier c && rest.all continuesIdentifier

end AccessControl.Text
