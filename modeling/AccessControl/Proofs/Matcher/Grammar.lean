import AccessControl.Matcher.Parser
import AccessControl.Proofs.Matcher.Token

/-! The grammar of matchers over their tokens, and the arguments that single tokens write. -/

namespace AccessControl

open AccessControl.Text AccessControl.Decimal AccessControl.Token

/-! ### The grammar -/

/-- The name of a schema in a matcher: the letter of requests or of policies, and digits. -/
def IsSchemaPart (part : List Char) : Prop :=
  ∃ letter digits, (letter = 'r' ∨ letter = 'p') ∧ part = letter :: digits ∧
    ∀ c ∈ digits, isAsciiDigit c = true

/-- A name writes a reference: that of a schema comes first, and those of the field and of the
attributes behind it, with points between them. -/
structure FieldRef.IsWritten (ref : FieldRef) (name : List Char) : Prop where
  schema : IsSchemaPart ref.schema.toList
  names : ∀ part ∈ ref.name :: ref.attributes, IsNamePart part.toList
  text : ref.text.toList = name

/-- A token writes an argument. A name that writes no reference is a constant. -/
inductive WritesArgument (token : Token) : Argument → Prop
  | quoted (kind : token.kind = .string) :
    WritesArgument token (.literal (.text (unquoted token.text)))
  | whole (value : Int) (kind : token.kind = .number) (point : '.' ∉ token.text)
    (read : readWhole token.text = .value value) : WritesArgument token (.literal (.whole value))
  | real (value : Double) (kind : token.kind = .number) (point : '.' ∈ token.text)
    (read : readDouble? token.text = some value) : WritesArgument token (.literal (.real value))
  | field (ref : FieldRef) (kind : token.kind = .name) (written : ref.IsWritten token.text) :
    WritesArgument token (.field ref)
  | word (kind : token.kind = .name) (shape : IsName token.text)
    (plain : ∀ ref : FieldRef, ¬ ref.IsWritten token.text) :
    WritesArgument token (.literal (.text token.string))

/-- Tokens write arguments with commas between them, one at least. -/
inductive WritesArguments : List Token → List Argument → Prop
  | one {token : Token} {argument : Argument} (first : WritesArgument token argument) :
    WritesArguments [token] [argument]
  | more {token comma : Token} {tokens : List Token} {argument : Argument}
    {arguments : List Argument} (first : WritesArgument token argument)
    (kind : comma.kind = .comma) (others : WritesArguments tokens arguments) :
    WritesArguments (token :: comma :: tokens) (argument :: arguments)

/-- Tokens write a call: a name without points, and arguments in parentheses. -/
inductive WritesCall : List Token → Call → Prop
  | call {name opening closing : Token} {tokens : List Token} {arguments : List Argument}
    (kind : name.kind = .name) (plain : '.' ∉ name.text) (opens : opening.kind = .opening)
    (inside : WritesArguments tokens arguments) (closes : closing.kind = .closing) :
    WritesCall (name :: opening :: (tokens ++ [closing])) ⟨name.string, arguments⟩

/-- Tokens write a side of an equation or inequality. -/
inductive WritesOperand : List Token → Operand → Prop
  | plain {token : Token} {argument : Argument} (written : WritesArgument token argument) :
    WritesOperand [token] (.plain argument)
  | call {tokens : List Token} {c : Call} (written : WritesCall tokens c) :
    WritesOperand tokens (.call c)

/-- Tokens write a clause: a call, an equation or an inequality. -/
inductive WritesClause : List Token → Clause → Prop
  | call {tokens : List Token} {c : Call} (written : WritesCall tokens c) :
    WritesClause tokens (.call c)
  | equation {left right : List Token} {sign : Token} {lhs rhs : Operand} (negated : Bool)
    (before : WritesOperand left lhs)
    (symbol : sign.isSign (if negated then "!=" else "==") = true)
    (behind : WritesOperand right rhs) :
    WritesClause (left ++ sign :: right) (.equation lhs rhs negated)
  | inequality {left right : List Token} {sign : Token} {lhs rhs : Operand}
    (inequality : Inequality) (before : WritesOperand left lhs)
    (symbol : sign.isSign inequality.symbol = true) (behind : WritesOperand right rhs) :
    WritesClause (left ++ sign :: right) (.inequality inequality lhs rhs)

/-- Tokens write clauses joined by `&&`, one at least. -/
inductive WritesClauses : List Token → List Clause → Prop
  | one {tokens : List Token} {clause : Clause} (first : WritesClause tokens clause) :
    WritesClauses tokens [clause]
  | more {tokens rest : List Token} {sign : Token} {clause : Clause} {clauses : List Clause}
    (first : WritesClause tokens clause) (joins : sign.isSign "&&" = true)
    (others : WritesClauses rest clauses) :
    WritesClauses (tokens ++ sign :: rest) (clause :: clauses)

/-! ### Names -/

/-- The test for the name of a schema. -/
theorem isSchemaName_iff {part : List Char} : isSchemaName part = true ↔ IsSchemaPart part := by
  unfold isSchemaName IsSchemaPart
  split
  · -- There is a first character.
    rename_i c digits
    simp only [Bool.and_eq_true, Bool.or_eq_true, beq_iff_eq, List.all_eq_true]
    constructor
    · rintro ⟨letter, all⟩
      exact ⟨c, digits, letter, rfl, all⟩
    · rintro ⟨_, _, letter, equal, all⟩
      obtain ⟨rfl, rfl⟩ := List.cons.inj equal
      exact ⟨letter, all⟩
  · -- The empty text is no name of a schema.
    simp

/-- The name of a schema has no point. -/
theorem IsSchemaPart.point_not_mem {part : List Char} (shape : IsSchemaPart part) : '.' ∉ part := by
  obtain ⟨letter, digits, which, rfl, all⟩ := shape
  intro member
  rcases List.mem_cons.mp member with rfl | behind
  · -- The letter is no point.
    rcases which with other | other <;> exact absurd other (by decide)
  · -- No digit is a point.
    exact absurd (all '.' behind) (by decide)

/-- A reference is written by the name whose pieces between points are its parts. -/
theorem FieldRef.IsWritten.splitOn_eq {ref : FieldRef} {name : List Char}
    (written : ref.IsWritten name) :
    splitOn '.' name =
      ref.schema.toList :: ref.name.toList :: ref.attributes.map String.toList := by
  rw [splitOn_eq_iff (by simp)]
  constructor
  · -- Joined again, the parts are the name.
    rw [← written.text, FieldRef.text, String.toList_intercalate]
    rfl
  · -- No part has a point.
    intro piece member
    rcases List.mem_cons.mp member with rfl | behind
    · exact written.schema.point_not_mem
    · rw [← List.map_cons] at behind
      obtain ⟨part, within, rfl⟩ := List.mem_map.mp behind
      exact (written.names part within).point_not_mem

/-- Pieces of a name that begin with one of a schema write a reference. -/
theorem FieldRef.isWritten_of_splitOn {name schema field : List Char}
    {attributes : List (List Char)} (split : splitOn '.' name = schema :: field :: attributes)
    (isSchema : IsSchemaPart schema) (shape : IsName name) :
    FieldRef.IsWritten ⟨String.ofList schema, String.ofList field,
      attributes.map String.ofList⟩ name := by
  have joined := ((splitOn_eq_iff (by simp)).mp split).1
  have parts : ∀ part ∈ schema :: field :: attributes, IsNamePart part := by
    rw [← split]
    exact shape
  refine ⟨by simpa using isSchema, ?_, ?_⟩
  · -- Every part is a piece of the name.
    intro part member
    have member : part ∈ (field :: attributes).map String.ofList := member
    obtain ⟨piece, within, rfl⟩ := List.mem_map.mp member
    simpa using parts piece (List.mem_cons_of_mem _ within)
  · -- The parts are the whole name.
    rw [← joined, FieldRef.text, String.toList_intercalate]
    simp [Function.comp_def]

/-- What a name stands for that writes a reference. -/
theorem FieldRef.IsWritten.ofName_eq {ref : FieldRef} {name : List Char}
    (written : ref.IsWritten name) : Argument.ofName name = .field ref := by
  have same : (ref.attributes.map String.toList).map String.ofList = ref.attributes := by
    simp [Function.comp_def]
  simp only [Argument.ofName, written.splitOn_eq, isSchemaName_iff.mpr written.schema, if_true,
    String.ofList_toList, same]

/-- A name stands for the reference that it writes, or else for its own text. -/
theorem Argument.ofName_cases {name : List Char} (shape : IsName name) :
    (∃ ref : FieldRef, ref.IsWritten name ∧ Argument.ofName name = .field ref) ∨
      (∀ ref : FieldRef, ¬ ref.IsWritten name) ∧
        Argument.ofName name = .literal (.text (String.ofList name)) := by
  by_cases some : ∃ ref : FieldRef, ref.IsWritten name
  · -- The name is that of a reference.
    obtain ⟨ref, written⟩ := some
    exact .inl ⟨ref, written, written.ofName_eq⟩
  · -- The name is no reference.
    rw [not_exists] at some
    refine .inr ⟨some, ?_⟩
    unfold Argument.ofName
    split
    · rename_i schema field attributes split
      -- A first piece of a schema would make a reference.
      have other : isSchemaName schema = false := by
        rw [← Bool.not_eq_true]
        intro isSchema
        exact some _ (FieldRef.isWritten_of_splitOn split (isSchemaName_iff.mp isSchema) shape)
      simp [other]
    · -- With a single part there is no reference.
      rfl

/-! ### Single tokens -/

/-- A whole number among the tokens has no more digits than are converted. -/
def Token.IsShort (token : Token) : Prop :=
  token.kind = .number → '.' ∉ token.text → token.text.countP isDecimalDigit ≤ digitLimit

instance (token : Token) : Decidable token.IsShort :=
  inferInstanceAs (Decidable (_ → _ → _))

/-- How many digits a token has. -/
def Token.digits (token : Token) : Nat :=
  token.text.countP isDecimalDigit

/-- The token is a lexeme of some text. -/
def Token.IsLexeme (token : Token) : Prop :=
  ∃ cs, lexeme? cs = some (token.kind, token.text)

/-- A number is read as the constant that it writes, unless it is whole and has too many digits. -/
theorem Token.IsLexeme.numberLiteral_cases {token : Token} (lexeme : token.IsLexeme)
    (kind : token.kind = .number) :
    (token.IsShort ∧ ∃ constant, numberLiteral token.text = .ok constant ∧
      WritesArgument token (.literal constant)) ∨
    ¬ token.IsShort ∧ numberLiteral token.text = .error (.tooManyDigits token.digits) := by
  obtain ⟨cs, found⟩ := lexeme
  rw [kind] at found
  -- A number without a point is a whole one, for which alone the number of digits matters.
  rcases numberText?_cases (numberText?_of_lexeme? found) with ⟨shape, plain⟩ | ⟨shape, point⟩
  · -- The number is a whole one.
    obtain ⟨negative, digits, run, same⟩ := shape
    -- All the digits count, and a minus is none.
    have count : token.digits = digits.length := by
      have sign : (minus negative).countP isDecimalDigit = 0 := by cases negative <;> decide
      rw [Token.digits, same, List.countP_append, sign, List.countP_eq_length.mpr run.digits,
        Nat.zero_add]
    have short : token.IsShort ↔ digits.length ≤ digitLimit := by
      rw [← count]
      exact ⟨fun short => short kind plain, fun few _ _ => few⟩
    rw [short]
    rcases readWhole_cases negative run with ⟨few, value, read⟩ | ⟨many, read⟩
    · -- It has few digits, and is read.
      rw [← same] at read
      exact .inl ⟨few, .whole value, by simp [Token.numberLiteral, plain, read],
        .whole value kind plain read⟩
    · -- It has too many.
      rw [← same] at read
      exact .inr ⟨Nat.not_le.mpr many, by simp [Token.numberLiteral, plain, read, count]⟩
  · -- The number is a real one, which is read whatever its digits are.
    obtain ⟨negative, whole, fraction, run, part, same⟩ := shape
    have isSome := readDouble?_isSome negative run part
    rw [← same] at isSome
    obtain ⟨value, read⟩ := Option.isSome_iff_exists.mp isSome
    exact .inl ⟨fun _ plain => absurd point plain,
      .real value, by simp [Token.numberLiteral, point, read],
      .real value kind point read⟩

/-- A token is read as the argument that it writes. -/
theorem WritesArgument.ofToken_eq {token : Token} {argument : Argument}
    (written : WritesArgument token argument) : Argument.ofToken token = .ok argument := by
  unfold Argument.ofToken
  cases written with
  -- What is quoted is a text.
  | quoted kind => simp [kind]
  -- Numbers are read.
  | whole value kind point read => simp [kind, Token.numberLiteral, point, read, Except.map]
  | real value kind point read => simp [kind, Token.numberLiteral, point, read, Except.map]
  -- A name that is a reference becomes one.
  | field ref kind written => simp [kind, written.ofName_eq]
  | word kind shape plain =>
    rcases Argument.ofName_cases shape with ⟨ref, written, _⟩ | ⟨_, read⟩
    · -- A plain word is no reference.
      exact absurd written (plain ref)
    · -- It stands for its own text.
      simp [kind, read, Token.string]

/-- A lexeme is read as the argument that it writes. Otherwise it is too long a number, or it has no
place among arguments. -/
theorem Token.IsLexeme.ofToken_cases {token : Token} (lexeme : token.IsLexeme) :
    (∃ argument, Argument.ofToken token = .ok argument ∧ WritesArgument token argument) ∨
      ¬ token.IsShort ∧ Argument.ofToken token = .error (.tooManyDigits token.digits) ∨
      Argument.ofToken token = .error token.misplaced := by
  unfold Argument.ofToken
  split
  · -- A quoted text.
    rename_i kind
    exact .inl ⟨_, rfl, .quoted kind⟩
  · -- A number.
    rename_i kind
    rcases lexeme.numberLiteral_cases kind with ⟨_, constant, read, written⟩ | ⟨long, failed⟩
    · exact .inl ⟨.literal constant, by rw [read]; rfl, written⟩
    · exact .inr (.inl ⟨long, by rw [failed]; rfl⟩)
  · -- A name writes a reference or stands for its own text.
    rename_i kind
    obtain ⟨cs, found⟩ := lexeme
    rw [kind] at found
    have shape := isName_of_lexeme? found
    rcases Argument.ofName_cases shape with ⟨ref, written, read⟩ | ⟨plain, read⟩
    · -- The name is a reference.
      exact .inl ⟨.field ref, by rw [read], .field ref kind written⟩
    · -- The name is a plain word.
      exact .inl ⟨.literal (.text token.string), by rw [read]; rfl, .word kind shape plain⟩
  · -- Any other token is misplaced.
    exact .inr (.inr rfl)

/-- Too long a number is never read. -/
theorem Token.IsLexeme.ofToken_of_long {token : Token} (lexeme : token.IsLexeme)
    (long : ¬ token.IsShort) : Argument.ofToken token = .error (.tooManyDigits token.digits) := by
  have kind : token.kind = .number := (Classical.not_imp.mp long).1
  rcases lexeme.numberLiteral_cases kind with ⟨short, _⟩ | ⟨_, failed⟩
  · -- Only a number has so many digits.
    exact absurd short long
  · -- The error of the number is that of the token.
    simp [Argument.ofToken, kind, failed, Except.map]

/-- A lexeme writes what it is read as. -/
theorem Token.IsLexeme.writes {token : Token} {argument : Argument} (lexeme : token.IsLexeme)
    (read : Argument.ofToken token = .ok argument) : WritesArgument token argument := by
  rcases lexeme.ofToken_cases with ⟨found, same, written⟩ | ⟨_, failed⟩ | failed
  · -- The argument is the one that is written.
    rw [read] at same
    rwa [Except.ok.inj same]
  · -- A number that is too long is not read.
    cases read.symm.trans failed
  · -- A token that is misplaced is not read.
    cases read.symm.trans failed

end AccessControl
