import AccessControl.Error
import AccessControl.Text.Classes

/-! Tokens of matcher texts; every character outside a token is a blank. -/

namespace AccessControl

open AccessControl.Text

/-- The kinds of tokens. -/
inductive TokenKind
  | string
  | number
  | name
  | sign
  | opening
  | closing
  | comma
deriving Repr, DecidableEq

/-- A token with its text and its position, in characters from the start. -/
structure Token where
  kind : TokenKind
  text : List Char
  position : Nat
deriving Repr, DecidableEq

namespace Token

/-- The characters of a quoted text from after its opening mark to its closing mark. -/
def stringTail? (mark : Char) : List Char → Option (List Char)
  | [] => none
  | '\\' :: rest =>
    match rest with
    | [] => none
    -- A backslash keeps any character but a line break.
    | c :: rest =>
      if c == '\n' then none else (stringTail? mark rest).map fun tail => '\\' :: c :: tail
  | c :: rest => if c == mark then some [c] else (stringTail? mark rest).map (c :: ·)

/-- The decimal point and the digits after it, if there are any. -/
def fractionText (cs : List Char) : List Char :=
  match cs with
  | '.' :: rest =>
    match rest.takeWhile isDecimalDigit with
    | [] => []
    | digits => '.' :: digits
  | _ => []

/-- The characters of a number, which no character of a word and no point may follow. -/
def numberText? (cs : List Char) : Option (List Char) :=
  let sign := if cs.head? == some '-' then ['-'] else []
  let body := cs.drop sign.length
  let whole := body.takeWhile isDecimalDigit
  if whole.isEmpty then none
  else
    let text := sign ++ whole ++ fractionText (body.drop whole.length)
    match cs.drop text.length with
    | [] => some text
    | c :: _ => if isWord c || c == '.' then none else some text

/-- A character that can start a part of a name. -/
def startsName (c : Char) : Bool :=
  isAsciiLetter c || c == '_'

/-- A character inside a part of a name. -/
def continuesName (c : Char) : Bool :=
  startsName c || isAsciiDigit c

/-- The characters of a name after the first one; a point joins two parts. -/
def nameTail : List Char → List Char
  | [] => []
  | '.' :: rest =>
    match rest with
    | [] => []
    | c :: rest => if startsName c then '.' :: c :: nameTail rest else []
  | c :: rest => if continuesName c then c :: nameTail rest else []

/-- The signs between operands and clauses, where a longer one comes before its beginning. -/
def signs : List (List Char) :=
  [['&', '&'], ['|', '|'], ['=', '='], ['!', '='], ['>', '='], ['<', '='], ['>'], ['<'], ['!']]

/-- The kind and the characters of the token that starts here. -/
def lexeme? : List Char → Option (TokenKind × List Char)
  | [] => none
  | c :: rest =>
    if c == '\'' || c == '"' then (stringTail? c rest).map fun tail => (.string, c :: tail)
    else
      match numberText? (c :: rest) with
      | some text => some (.number, text)
      | none =>
        if startsName c then some (.name, c :: nameTail rest)
        else
          match signs.find? fun sign => sign.isPrefixOf (c :: rest) with
          | some sign => some (.sign, sign)
          | none =>
            if c == '(' then some (.opening, [c])
            else if c == ')' then some (.closing, [c])
            else if c == ',' then some (.comma, [c])
            else none

/-- The tokens of the characters from a position on, after as many characters as belong to the last
one. -/
def scan (position : Nat) : Nat → List Char → Except SyntaxFault (List Token)
  | _, [] => .ok []
  | passed + 1, _ :: rest => scan (position + 1) passed rest
  | 0, c :: rest =>
    if isBlank c then scan (position + 1) 0 rest
    else
      match lexeme? (c :: rest) with
      | none => .error (.unexpectedCharacter c position)
      | some (kind, text) =>
        (scan (position + 1) (text.length - 1) rest).map (⟨kind, text, position⟩ :: ·)

end Token

/-- The tokens of a text. -/
def tokenize (text : List Char) : Except SyntaxFault (List Token) :=
  Token.scan 0 0 text

end AccessControl
