import AccessControl.Proofs.Matcher.Conjunction

/-! Matchers are read back from the texts of their clauses: quotes, words without quotes and numbers
of either sign come out as the constants that they were. -/

namespace AccessControl

open AccessControl.Text AccessControl.Decimal AccessControl.Token

/-! ### Constants -/

/-- The constants of an argument. -/
def Argument.constants : Argument → List Literal
  | .field _ => []
  | .literal constant => [constant]

/-- The constants of an operand. -/
def Operand.constants : Operand → List Literal
  | .plain argument => argument.constants
  | .call c => c.arguments.flatMap Argument.constants

/-- The constants of a clause. -/
def Clause.constants : Clause → List Literal
  | .call c => c.arguments.flatMap Argument.constants
  | .equation lhs rhs _ | .inequality _ lhs rhs => lhs.constants ++ rhs.constants

/-- The constants of a matcher. -/
def Matcher.constants (matcher : Matcher) : List Literal :=
  matcher.clauses.flatMap Clause.constants

/-- The text of a matcher: those of its clauses with `&&` between them. -/
def Matcher.printed (matcher : Matcher) : String :=
  " && ".intercalate (matcher.clauses.map Clause.text)

/-- The constant is one that can be read back from what is written of it: a text with printable
characters only, among which are those of ASCII from the blank to the tilde, or a whole number. -/
def Literal.IsLegible : Literal → Prop
  | .text s => ∀ c ∈ s.toList, isPrintable c = true
  | .whole _ => True
  | .real _ => False

instance : DecidablePred Literal.IsLegible
  | .text s => decidable_of_iff (s.toList.all isPrintable = true) List.all_eq_true
  | .whole _ => .isTrue trivial
  | .real _ => .isFalse id

/-! ### Quoted texts -/

namespace Token

variable {mark c : Char} {cs : List Char}

/-- A printable character is written as it is, behind a backslash where it would mean something
else. -/
theorem quoteChar_of_isPrintable (printable : isPrintable c = true) :
    quoteChar mark c = if c = mark ∨ c = '\\' then ['\\', c] else [c] := by
  have different (d : Char) (hidden : isPrintable d = false) : c ≠ d := by
    rintro rfl
    simp [printable] at hidden
  simp [quoteChar, different '\n' (by decide), different '\t' (by decide),
    different '\r' (by decide), printable]

/-- What is written of printable characters is closed by the mark behind it. -/
theorem closes_quoted (printable : ∀ c ∈ cs, isPrintable c = true) :
    Closes mark (cs.flatMap (quoteChar mark) ++ [mark]) := by
  induction cs with
  | nil => exact .closed
  | cons c rest ih =>
    obtain ⟨first, others⟩ := List.forall_mem_cons.mp printable
    rw [List.flatMap_cons, quoteChar_of_isPrintable first]
    split
    · -- A line break alone is not kept by a backslash, and it is not printable.
      have sameLine : c ≠ '\n' := by
        rintro rfl
        exact absurd first (by decide)
      exact .kept sameLine (ih others)
    · -- Any other character ends neither the text nor its line.
      rename_i plain
      rw [not_or] at plain
      exact .plain plain.1 plain.2 (ih others)

/-- Without its backslashes it is what was written. -/
theorem unescape_quoted (printable : ∀ c ∈ cs, isPrintable c = true) :
    unescape (cs.flatMap (quoteChar mark)) = cs := by
  induction cs with
  | nil => rfl
  | cons c rest ih =>
    obtain ⟨first, others⟩ := List.forall_mem_cons.mp printable
    rw [List.flatMap_cons, quoteChar_of_isPrintable first]
    split
    · -- The backslash in front of it is taken off.
      simp [unescape, ih others]
    · -- Any other character stands for itself.
      rename_i plain
      rw [not_or] at plain
      simp [unescape, plain.2, ih others]

/-- A quoted text has one of two marks. -/
theorem quoteMark_cases (cs : List Char) : quoteMark cs = '\'' ∨ quoteMark cs = '"' := by
  unfold quoteMark
  split
  · -- The text has an apostrophe, and no quotation mark.
    exact .inr rfl
  · -- All other texts are in apostrophes.
    exact .inl rfl

/-- A text of printable characters in quotes is a token, which has the text between its marks. -/
theorem quoted_printable (printable : ∀ c ∈ cs, isPrintable c = true) :
    HasForm .string (quoteChars cs) ∧ unquoted (quoteChars cs) = String.ofList cs := by
  have closes : Closes (quoteMark cs) (cs.flatMap (quoteChar (quoteMark cs)) ++ [quoteMark cs]) :=
    closes_quoted printable
  rw [quoteChars, List.cons_append]
  refine ⟨.string (quoteMark_cases cs) closes, ?_⟩
  rw [unquoted, List.drop_succ_cons, List.drop_zero, List.dropLast_concat,
    unescape_quoted printable]

end Token

/-! ### Texts that spell something -/

/-- The text spells something: it has no blanks at its ends, and its tokens write the thing. -/
structure Spells {α : Type} (Writes : List Token → α → Prop) (text : String) (a : α) : Prop where
  trimmed : IsTrimmed text.toList
  written : ∃ tokens, tokenize text.toList = .ok tokens ∧ Writes tokens a

/-- A single token writes an argument. -/
def WritesAlone (tokens : List Token) (argument : Argument) : Prop :=
  ∃ token, tokens = [token] ∧ WritesArgument token argument

section

variable {text rest : String} {argument : Argument} {arguments : List Argument}

/-- A text with the form of a token spells what the token writes. -/
theorem spells_token {kind : TokenKind} (form : HasForm kind text.toList)
    (trimmed : IsTrimmed text.toList)
    (written : WritesArgument ⟨kind, text.toList, 0⟩ argument) :
    Spells WritesAlone text argument where
  trimmed
  written := ⟨_, form.tokenize_eq, _, rfl, written⟩

/-- The text spells as well what the same tokens write with it. -/
theorem Spells.imp {α β : Type} {Writes : List Token → α → Prop}
    {Others : List Token → β → Prop} {a : α}
    {b : β} (spelled : Spells Writes text a)
    (also : ∀ {tokens}, Writes tokens a → Others tokens b) :
    Spells Others text b where
  trimmed := spelled.trimmed
  written := by
    obtain ⟨tokens, found, written⟩ := spelled.written
    exact ⟨tokens, found, also written⟩

/-- An argument is spelled in front of others, with a comma and a blank between them. -/
theorem Spells.more (first : Spells WritesAlone text argument)
    (others : Spells WritesArguments rest arguments) :
    Spells WritesArguments (text ++ ", " ++ rest) (argument :: arguments) where
  trimmed := by
    rw [String.toList_append, String.toList_append, List.append_assoc]
    exact first.trimmed.join others.trimmed _
  written := by
    obtain ⟨_, found, token, rfl, written⟩ := first.written
    obtain ⟨tokens, again, also⟩ := others.written
    -- The other arguments move on by the blank, the comma and the first argument.
    have behind : tokenize (", ".toList ++ rest.toList) =
        .ok (⟨.comma, [','], 0⟩ :: (tokens.map (moveBy 1)).map (moveBy 1)) :=
      tokenize_cons rfl rfl (tokenize_blank rfl again)
    have all := (breaks_of_mem ',' (by simp)).tokenize_append found behind
    rw [String.toList_append, String.toList_append, List.append_assoc]
    exact ⟨_, all, .more written rfl (((also.moveBy 1).moveBy 1).moveBy text.toList.length)⟩

/-- A call is spelled by its name and by its arguments in parentheses. -/
theorem Spells.call {name : Token} (shape : IsName name.text) (plain : '.' ∉ name.text)
    (inside : Spells WritesArguments text arguments) :
    Spells WritesCall (name.string ++ "(" ++ text ++ ")") ⟨name.string, arguments⟩ := by
  have chars : (name.string ++ "(" ++ text ++ ")").toList = name.text ++ '(' ::
      (text.toList ++ [')']) := by
    simp [Token.string]
  refine ⟨?_, ?_⟩
  · rw [chars]
    -- Neither the name nor the parenthesis is trimmed off.
    exact shape.isTrimmed.join (isTrimmed_singleton rfl) ('(' :: text.toList)
  · obtain ⟨tokens, found, written⟩ := inside.written
    -- The tokens are found from the arguments outwards: the end of the call, its opening, its name.
    have closed := (breaks_of_mem ')' (by simp)).tokenize_append found HasForm.closing.tokenize_eq
    have opened : tokenize ('(' :: (text.toList ++ [')'])) = .ok (⟨.opening, ['('], 0⟩ :: _) :=
      tokenize_cons rfl rfl closed
    have all := (breaks_of_mem '(' (by simp)).tokenize_append
      (HasForm.name shape).tokenize_eq opened
    rw [List.map_cons, List.map_append, List.map_append] at all
    rw [chars]
    exact ⟨_, all, .call rfl plain rfl ((written.moveBy 1).moveBy name.text.length) rfl⟩

/-- Two texts with a sign between them spell what the tokens of both write with one. -/
theorem Spells.join {α β γ : Type} {Front : List Token → α → Prop} {Back : List Token → β → Prop}
    {Both : List Token → γ → Prop} {first second symbol : String} {a : α} {b : β} {c : γ}
    (front : Spells Front first a) (listed : symbol.toList ∈ signs) (back : Spells Back second b)
    (both : ∀ {left right sign} distance, Front left a → sign.isSign symbol = true → Back right b →
      Both (left ++ sign :: right.map (moveBy distance)) c) :
    Spells Both (first ++ (" " ++ symbol ++ " ") ++ second) c where
  trimmed := by
    rw [String.toList_append, String.toList_append, List.append_assoc]
    exact front.trimmed.join back.trimmed _
  written := by
    obtain ⟨left, found, written⟩ := front.written
    obtain ⟨right, again, also⟩ := back.written
    have none : ∀ c ∈ ([] : List Char), isBlank c = true := by simp
    obtain ⟨sign, distance, joins, joined⟩ := tokenize_join listed found again none none
    rw [String.toList_append, String.toList_append, List.append_assoc]
    exact ⟨_, joined, both distance written joins also⟩

end

/-! ### Texts of what was read -/

/-- A text of printable characters is spelled in quotes. -/
theorem spells_quote {s : String} (legible : Literal.IsLegible (.text s)) :
    Spells WritesAlone (quote s) (.literal (.text s)) := by
  obtain ⟨form, same⟩ := quoted_printable legible
  rw [String.ofList_toList] at same
  have chars : (quote s).toList = quoteChars s.toList := String.toList_ofList
  rw [← chars] at form same
  -- In quotation marks the text is written as it is.
  have written (cs : List Char) :
    WritesArgument ⟨.string, cs, 0⟩ (.literal (.text (unquoted cs))) := .quoted rfl
  have spelled := written (quote s).toList
  rw [same] at spelled
  have mark : IsTrimmed [quoteMark s.toList] := by
    refine isTrimmed_singleton ?_
    rcases quoteMark_cases s.toList with single | double
    · rw [single]
      rfl
    · rw [double]
      rfl
  have trimmed : IsTrimmed (quote s).toList := by
    rw [chars, quoteChars, List.cons_append]
    exact mark.join mark (s.toList.flatMap (quoteChar (quoteMark s.toList)))
  exact spells_token form trimmed spelled

/-- A whole number with few digits is spelled by its digits. -/
theorem spells_intText {i : Int} (few : HasFewDigits i) :
    Spells WritesAlone (intText i) (.literal (.whole i)) := by
  have form : HasForm .number (intText i).toList :=
    .whole ⟨_, _, isDigits_digitChars i.natAbs, toList_intText i⟩
  have visible : ∀ c ∈ (intText i).toList, isBlank c = false ∧ c ≠ '.' := by
    intro c member
    rcases mem_intText member with rfl | digit
    · -- The sign is neither blank nor a point.
      decide
    · -- Nor is a digit.
      refine ⟨isBlank_of_isAsciiDigit digit, ?_⟩
      rintro rfl
      exact absurd digit (by decide)
  have point : '.' ∉ (intText i).toList := fun member => (visible _ member).2 rfl
  exact spells_token form (isTrimmed_of_visible form.ne_nil fun c member => (visible c member).1)
    (.whole i rfl point (readWhole_intText few))

section

variable {tokens : List Token}

/-- An argument that was read is spelled by its text. -/
theorem WritesArgument.spelled {token : Token} {argument : Argument}
    (written : WritesArgument token argument)
    (lexeme : token.IsLexeme) (legible : ∀ constant ∈ argument.constants, constant.IsLegible) :
    Spells WritesAlone argument.text argument := by
  obtain ⟨cs, found⟩ := lexeme
  cases written with
  -- A text is quoted again.
  | quoted kind => exact spells_quote (legible _ (by simp [Argument.constants]))
  -- A word without quotes gets some, between which it cannot become a reference.
  | word kind shape plain => exact spells_quote (legible _ (by simp [Argument.constants]))
  | whole value kind point read =>
    -- Having been read, it has few digits, even if it was written with others, or with zeros in
    -- front.
    rw [kind] at found
    rcases numberText?_cases (numberText?_of_lexeme? found)
      with ⟨⟨negative, digits, run, same⟩, _⟩ | ⟨_, real⟩
    · rw [same] at read
      exact spells_intText (hasFewDigits_of_readWhole run read)
    · exact absurd real point
  -- A real number is not legible.
  | real value => exact (legible (.real value) (by simp [Argument.constants])).elim
  -- A reference is a name again.
  | field ref kind written =>
    rw [kind, ← written.text] at found
    have shape := isName_of_lexeme? found
    exact spells_token (.name shape) shape.isTrimmed (.field ref rfl { written with text := rfl })

/-- Arguments that were read are spelled by their texts with commas between them. -/
theorem WritesArguments.spelled {arguments : List Argument}
    (written : WritesArguments tokens arguments) (lexemes : ∀ token ∈ tokens, token.IsLexeme)
    (legible : ∀ constant ∈ arguments.flatMap Argument.constants, constant.IsLegible) :
    Spells WritesArguments (", ".intercalate (arguments.map Argument.text)) arguments := by
  induction written with
  | one first =>
    -- A single argument stands alone.
    have alone := first.spelled (lexemes _ (by simp)) (by simpa using legible)
    rw [List.map_singleton, String.intercalate_singleton]
    refine alone.imp ?_
    rintro _ ⟨token, rfl, written⟩
    exact .one written
  | @more _ _ _ _ arguments first kind others ih =>
    rw [List.flatMap_cons, List.forall_mem_append] at legible
    -- Any other one is followed by a comma.
    have alone := first.spelled (lexemes _ (by simp)) legible.1
    have later := ih (fun token member => lexemes token (by simp [member])) legible.2
    have some : arguments.map Argument.text ≠ [] := by cases others <;> simp
    rw [List.map_cons, String.intercalate_cons_of_ne_nil some]
    exact alone.more later

/-- A call that was read is spelled by its text. -/
theorem WritesCall.spelled {c : Call} (written : WritesCall tokens c)
    (lexemes : ∀ token ∈ tokens, token.IsLexeme)
    (legible : ∀ constant ∈ c.arguments.flatMap Argument.constants, constant.IsLegible) :
    Spells WritesCall c.text c := by
  cases written with
  | @call name _ _ tokens arguments kind plain opens inside closes =>
    obtain ⟨cs, found⟩ := lexemes name (by simp)
    rw [kind] at found
    have spelled := inside.spelled (fun token member => lexemes token (by simp [member])) legible
    exact .call (isName_of_lexeme? found) plain spelled

/-- A side that was read is spelled by its text. -/
theorem WritesOperand.spelled {operand : Operand} (written : WritesOperand tokens operand)
    (lexemes : ∀ token ∈ tokens, token.IsLexeme)
    (legible : ∀ constant ∈ operand.constants, constant.IsLegible) :
    Spells WritesOperand operand.text operand := by
  cases written with
  -- The operand is an argument alone.
  | plain written =>
    refine (written.spelled (lexemes _ (by simp)) legible).imp ?_
    rintro _ ⟨token, rfl, alone⟩
    exact .plain alone
  -- The operand is a call.
  | call written => exact (written.spelled lexemes legible).imp .call

/-- Two sides that were read spell the clause that relates them, with its sign between their
texts. -/
theorem spells_relate {left right : List Token} {sign : Token} {lhs rhs : Operand} {clause : Clause}
    {symbol : String} (lexemes : ∀ token ∈ left ++ sign :: right, token.IsLexeme)
    (before : WritesOperand left lhs) (listed : symbol.toList ∈ signs)
    (behind : WritesOperand right rhs)
    (legible : ∀ constant ∈ lhs.constants ++ rhs.constants, constant.IsLegible)
    (relates : ∀ {left right sign}, WritesOperand left lhs → sign.isSign symbol = true →
      WritesOperand right rhs → WritesClause (left ++ sign :: right) clause) :
    Spells WritesClause (lhs.text ++ (" " ++ symbol ++ " ") ++ rhs.text) clause := by
  obtain ⟨one, other⟩ := List.forall_mem_append.mp legible
  have front := before.spelled (fun token member => lexemes token (by simp [member])) one
  have back := behind.spelled (fun token member => lexemes token (by simp [member])) other
  exact front.join listed back fun distance before joins behind =>
    relates before joins (behind.moveBy distance)

/-- A clause that was read is spelled by its text. -/
theorem WritesClause.spelled {clause : Clause} (written : WritesClause tokens clause)
    (lexemes : ∀ token ∈ tokens, token.IsLexeme)
    (legible : ∀ constant ∈ clause.constants, constant.IsLegible) :
    Spells WritesClause clause.text clause := by
  cases written with
  -- The clause is a call.
  | call written => exact (written.spelled lexemes legible).imp .call
  -- The clause is an equation, or its negation.
  | @equation _ _ _ lhs rhs negated before symbol behind =>
    have text : Clause.text (.equation lhs rhs negated) =
        lhs.text ++ (" " ++ (if negated then "!=" else "==") ++ " ") ++ rhs.text := by
      cases negated <;> rfl
    rw [text]
    exact spells_relate lexemes before (by cases negated <;> decide) behind legible
      (.equation negated)
  -- The clause is an inequality.
  | @inequality _ _ _ lhs rhs inequality before symbol behind =>
    have text : Clause.text (.inequality inequality lhs rhs) =
        lhs.text ++ (" " ++ inequality.symbol ++ " ") ++ rhs.text := by
      simp only [Clause.text, String.append_assoc]
    rw [text]
    exact spells_relate lexemes before (by cases inequality <;> decide) behind legible
      (.inequality inequality)

/-- Clauses that were read are spelled by their texts with `&&` between them. -/
theorem WritesClauses.spelled {clauses : List Clause} (written : WritesClauses tokens clauses)
    (lexemes : ∀ token ∈ tokens, token.IsLexeme)
    (legible : ∀ constant ∈ clauses.flatMap Clause.constants, constant.IsLegible) :
    Spells WritesClauses (" && ".intercalate (clauses.map Clause.text)) clauses := by
  induction written with
  -- A single clause stands alone.
  | one first =>
    rw [List.map_singleton, String.intercalate_singleton]
    exact (first.spelled lexemes (by simpa using legible)).imp .one
  | @more _ _ _ _ clauses first joins others ih =>
    rw [List.flatMap_cons, List.forall_mem_append] at legible
    -- Any other one is followed by the sign that joins them.
    have front := first.spelled (fun token member => lexemes token (by simp [member])) legible.1
    have back := ih (fun token member => lexemes token (by simp [member])) legible.2
    have some : clauses.map Clause.text ≠ [] := by cases others <;> simp
    rw [List.map_cons, String.intercalate_cons_of_ne_nil some]
    exact front.join (show "&&".toList ∈ signs by decide) back fun distance before joins behind =>
      .more before joins (behind.moveBy distance)

end

/-- The text of a matcher is read as a matcher with the same clauses, if all constants of the
matcher are legible. -/
theorem Matcher.read_printed {text : String} {matcher : Matcher}
    (read : Matcher.read text = .ok matcher)
    (legible : ∀ constant ∈ matcher.constants, constant.IsLegible) :
    Matcher.read matcher.printed = .ok ⟨matcher.printed, matcher.clauses⟩ := by
  obtain ⟨_, clauses⟩ := Matcher.read_eq_ok_iff.mp read
  obtain ⟨tokens, found, written⟩ := readClauses_eq_ok_iff.mp clauses
  have spelled : Spells WritesClauses matcher.printed matcher.clauses :=
    written.spelled (mem_tokenize found) legible
  obtain ⟨trimmed, again, same, also⟩ := spelled
  have kept : trim matcher.printed = matcher.printed := by
    rw [trim, trimmed.kept, String.ofList_toList]
  rw [Matcher.read_eq_ok_iff, kept]
  exact ⟨rfl, also.readClauses_eq same⟩

/-- A matcher with marks of both kinds, a backslash, a word without quotes and a number with zeros
in front. -/
def markedMatcher : Matcher where
  expression := "g(r.sub, \"it's\") && r.name == '\\'\\\\\"' && p.obj != free && r.age >= -007"
  clauses := [
    .call ⟨"g", [.field ⟨"r", "sub", []⟩, .literal (.text "it's")]⟩,
    .equation (.plain (.field ⟨"r", "name", []⟩)) (.plain (.literal (.text "'\\\""))) false,
    .equation (.plain (.field ⟨"p", "obj", []⟩)) (.plain (.literal (.text "free"))) true,
    .inequality .atLeast (.plain (.field ⟨"r", "age", []⟩)) (.plain (.literal (.whole (-7))))]

/-- The word stands in quotes afterwards, and the zeros are gone. -/
theorem Matcher.read_printed_marks :
    Matcher.read markedMatcher.expression = .ok markedMatcher ∧
    (∀ constant ∈ markedMatcher.constants, constant.IsLegible) ∧
    markedMatcher.printed =
      "g(r.sub, \"it's\") && r.name == '\\'\\\\\"' && p.obj != 'free' && r.age >= -7" ∧
    Matcher.read markedMatcher.printed = .ok ⟨markedMatcher.printed, markedMatcher.clauses⟩ := by
  have read : Matcher.read markedMatcher.expression = .ok markedMatcher := rfl
  have legible : ∀ constant ∈ markedMatcher.constants, constant.IsLegible := by decide
  exact ⟨read, legible, rfl, Matcher.read_printed read legible⟩

end AccessControl
