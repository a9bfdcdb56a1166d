import AccessControl.Matcher.Basic
import AccessControl.Matcher.Token
import AccessControl.Decimal.Reading
import AccessControl.Text.Trim

/-! Matchers read from their texts: clauses joined by `&&`, without groups, negations or nested
calls. -/

namespace AccessControl

open AccessControl.Text

/-- Why tokens are not read as a matcher. -/
inductive ParseFault
  | form (fault : SyntaxFault)
  | tooManyDigits (digits : Nat)
deriving Repr, DecidableEq

/-- The error of a fault in an expression. -/
def ParseFault.error (expression : String) : ParseFault → Error
  | .form fault => .syntaxFault fault expression
  | .tooManyDigits digits => .number (.tooManyDigits digits)

/-- The result of reading from the start of some tokens, with the tokens after it. -/
abbrev Parsed (α : Type) := Except ParseFault (α × List Token)

namespace Token

/-- The token is the given sign. -/
def isSign (token : Token) (sign : String) : Bool :=
  token.kind == .sign && token.text == sign.toList

/-- The text of a token. -/
def string (token : Token) : String :=
  String.ofList token.text

/-- The fault of a token that cannot stand at its place. -/
def misplaced (token : Token) : ParseFault :=
  .form <|
    if token.text == ['|', '|'] then .alternative token.position
    else if token.text == ['!'] then .negation token.position
    else if token.kind == .opening then .grouping token.position
    else .unexpectedToken token.string token.position

/-- The characters of a quoted text without its backslashes, each of which keeps the next
character. -/
def unescape : List Char → List Char
  | [] => []
  | '\\' :: rest =>
    match rest with
    | [] => ['\\']
    | c :: rest => c :: unescape rest
  | c :: rest => c :: unescape rest

/-- The text between the marks of a quoted text. -/
def unquoted (text : List Char) : String :=
  String.ofList (unescape (text.drop 1).dropLast)

/-- The constant that a number writes; a point makes it a double. -/
def numberLiteral (text : List Char) : Except ParseFault Literal :=
  if text.contains '.' then .ok (.real ((Decimal.readDouble? text).getD (.nan 0)))
  else
    match Decimal.readWhole text with
    | .value n => .ok (.whole n)
    | .tooLong digits => .error (.tooManyDigits digits)
    | .malformed => .ok (.whole 0)

end Token

/-- The name of a schema: the letter of requests or policies, and digits. -/
def isSchemaName (part : List Char) : Bool :=
  match part with
  | c :: digits => (c == 'r' || c == 'p') && digits.all isAsciiDigit
  | [] => false

/-- What a name stands for: a field if a schema and a point begin it, and else its own text. -/
def Argument.ofName (text : List Char) : Argument :=
  match splitOn '.' text with
  | schema :: name :: attributes =>
    if isSchemaName schema then
      .field ⟨String.ofList schema, String.ofList name, attributes.map String.ofList⟩
    else .literal (.text (String.ofList text))
  | _ => .literal (.text (String.ofList text))

/-- The argument that a single token writes. -/
def Argument.ofToken (token : Token) : Except ParseFault Argument :=
  match token.kind with
  | .string => .ok (.literal (.text (Token.unquoted token.text)))
  | .number => (Token.numberLiteral token.text).map .literal
  | .name => .ok (.ofName token.text)
  | _ => .error token.misplaced

/-- A parenthesis opens after a name. -/
def opensCall? (token : Token) (rest : List Token) : Option Token :=
  match rest with
  | next :: _ => if token.kind == .name && next.kind == .opening then some next else none
  | [] => none

/-- The arguments of a call from after its opening parenthesis to its closing one. -/
def parseArguments : List Token → Parsed (List Argument)
  | [] => .error (.form .unexpectedEnd)
  | token :: rest =>
    match opensCall? token rest with
    | some opening => .error (.form (.nestedCall opening.position))
    | none =>
      match Argument.ofToken token with
      | .error fault => .error fault
      | .ok argument =>
        match rest with
        | [] => .error (.form .unexpectedEnd)
        | next :: rest =>
          if next.kind == .closing then .ok ([argument], rest)
          else if next.kind == .comma then
            (parseArguments rest).map fun (more, rest) => (argument :: more, rest)
          else .error (.form (.separator next.string next.position))

/-- A call from after its name on; a name with a point names no function. -/
def parseCall (name : Token) (rest : List Token) : Parsed Call :=
  if name.text.contains '.' then .error (.form (.functionName name.string name.position))
  else (parseArguments (rest.drop 1)).map fun (arguments, rest) => (⟨name.string, arguments⟩, rest)

/-- A side of an equation or inequality, or a call that is a clause by itself. -/
def parseOperand : List Token → Parsed Operand
  | [] => .error (.form .unexpectedEnd)
  | token :: rest =>
    if (opensCall? token rest).isSome then
      (parseCall token rest).map fun (call, rest) => (.call call, rest)
    else (Argument.ofToken token).map fun argument => (.plain argument, rest)

/-- The clause that relates a left side to the operand after a sign. -/
def Clause.ofSign? (sign : Token) : Option (Operand → Operand → Clause) :=
  if sign.isSign "==" then some fun lhs rhs => .equation lhs rhs false
  else if sign.isSign "!=" then some fun lhs rhs => .equation lhs rhs true
  else if sign.kind == .sign then
    (Inequality.ofSymbol? sign.string).map fun symbol lhs rhs => .inequality symbol lhs rhs
  else none

/-- An operand as a clause of its own, which only a call is. -/
def Clause.ofOperand (position : Nat) : Operand → Except ParseFault Clause
  | .call c => .ok (.call c)
  | .plain argument => .error (.form (.notCondition argument.text position))

/-- A clause. -/
def parseClause (tokens : List Token) : Except ParseFault (Clause × List Token) := do
  let (lhs, rest) ← parseOperand tokens
  let position := (tokens.head?.map Token.position).getD 0
  match rest with
  | [] => return (← Clause.ofOperand position lhs, [])
  | sign :: more =>
    match Clause.ofSign? sign with
    | some relate =>
      let (rhs, rest) ← parseOperand more
      return (relate lhs rhs, rest)
    | none => return (← Clause.ofOperand position lhs, rest)

/-- Clauses joined by `&&` up to the end of the tokens; each of them takes a token at least. -/
def parseClauses : Nat → List Token → Except ParseFault (List Clause)
  | 0, _ => .error (.form .unexpectedEnd)
  | fuel + 1, tokens => do
    let (clause, rest) ← parseClause tokens
    match rest with
    | [] => return [clause]
    | sign :: rest =>
      if sign.isSign "&&" then return clause :: (← parseClauses fuel rest)
      else throw sign.misplaced

/-- The clauses that the characters of a text write. -/
def readClauses (text : List Char) : Except ParseFault (List Clause) :=
  match tokenize text with
  | .error fault => .error (.form fault)
  | .ok [] => .error (.form .empty)
  | .ok tokens => parseClauses (tokens.length + 1) tokens

/-- The matcher that a text writes, with blanks around it left out. -/
def Matcher.read (text : String) : Except Error Matcher :=
  let expression := trim text
  match readClauses expression.toList with
  | .ok clauses => .ok ⟨expression, clauses⟩
  | .error fault => .error (fault.error expression)

end AccessControl
