import AccessControl.Proofs.Matcher.Coverage
import AccessControl.Proofs.Matcher.Parser

/-! Whole numbers with too many digits: apart from faults of form they are all that keeps a text
from being read, and in a text that is a matcher but for their length the first of them does. -/

namespace AccessControl

open AccessControl.Text AccessControl.Decimal AccessControl.Token

namespace Token

/-- The token, with a zero in the place of too long a number. -/
def cut (token : Token) : Token :=
  if token.IsShort then token else { token with text := ['0'] }

/-- The fault of too long a number. -/
def checkLength (token : Token) : Except ParseFault Unit :=
  if token.IsShort then .ok () else .error (.tooManyDigits token.digits)

section

variable {token : Token}

/-- What is no number is short. -/
theorem isShort_of_kind (other : token.kind ≠ .number) : token.IsShort :=
  fun kind => absurd kind other

/-- What is no number is not cut. -/
theorem cut_of_kind (other : token.kind ≠ .number) : token.cut = token :=
  if_pos (isShort_of_kind other)

/-- A lexeme is read as the argument that it writes when it is cut, if it is short. -/
theorem IsLexeme.isReadThrough_cut (lexeme : token.IsLexeme) :
    token.IsReadThrough cut checkLength where
  kind := by
    unfold cut
    split <;> rfl
  same := cut_of_kind
  passes other := if_pos (isShort_of_kind other)
  read argument written := by
    -- A token with few digits is not cut.
    by_cases short : token.IsShort
    · rw [cut, if_pos short] at written
      rw [written.ofToken_eq, checkLength, if_pos short]
      rfl
    · -- A number with too many digits is refused wherever it is read.
      rw [lexeme.ofToken_of_long short, checkLength, if_neg short]
      rfl

end

/-- It is the first token that is too long, if there is one. -/
theorem forM_checkLength (tokens : List Token) : forM tokens checkLength =
    match tokens.find? fun token => ¬ token.IsShort with
    | none => .ok ()
    | some token => .error (.tooManyDigits token.digits) := by
  induction tokens with
  | nil => rfl
  | cons token rest ih =>
    rw [List.forM_cons, ih]
    by_cases short : token.IsShort <;> simp [checkLength, short]

end Token

/-! ### Texts -/

section

variable {tokens : List Token} {clauses : List Clause}

/-- A text whose tokens write clauses when they are cut is read as these, if all numbers are
short. -/
theorem readClauses_of_cut {text : List Char} (found : tokenize text = .ok tokens)
    (written : WritesClauses (tokens.map cut) clauses) :
    readClauses text = (forM tokens checkLength).map fun _ => clauses := by
  have through : ∀ token ∈ tokens, token.IsReadThrough cut checkLength := fun token member =>
    IsLexeme.isReadThrough_cut (mem_tokenize found token member)
  have read := parseClauses_through through written (Nat.lt_succ_self _)
  cases tokens with
  | nil =>
    -- Reading from no tokens comes to nothing.
    simp [parseClauses, parseClause, parseOperand, Except.map] at read
  | cons token rest => simpa only [readClauses, found] using read

/-- The error is a fault of a text: its syntax is wrong, with a text to show for it, or one of its
whole numbers has too many digits. -/
def Error.IsFaultOf (text shown : String) (error : Error) : Prop :=
  (∃ fault, error = .syntaxFault fault shown) ∨
    ∃ tokens, tokenize (trim text).toList = .ok tokens ∧
      ∃ token ∈ tokens, ¬ token.IsShort ∧ error = .number (.tooManyDigits token.digits)

/-- What keeps a text from being read as a matcher is a fault of it. -/
theorem Matcher.isFaultOf_of_read {text : String} {error : Error}
    (failed : Matcher.read text = .error error) :
    error.IsFaultOf text (trim text) := by
  unfold Matcher.read at failed
  rcases readClauses_outcomes (trim text).toList with
    ⟨_, _, _, _, read⟩ | ⟨fault, found⟩ | ⟨tokens, tokenized, token, member, long, found⟩
  · -- A text that is read is not refused.
    simp only [read, reduceCtorEq] at failed
  · -- The parser has found a fault.
    simp only [found] at failed
    exact .inl ⟨fault, (Except.error.inj failed).symm⟩
  · -- A number is too long.
    simp only [found] at failed
    exact .inr ⟨tokens, tokenized, token, member, long, (Except.error.inj failed).symm⟩

/-- A text whose tokens write clauses when they are cut is read as the matcher with these, or else
fails for the first number with too many digits. -/
theorem Matcher.read_of_cut {text : String} (found : tokenize (trim text).toList = .ok tokens)
    (written : WritesClauses (tokens.map cut) clauses) :
    Matcher.read text =
      match tokens.find? fun token => ¬ token.IsShort with
      | none => .ok ⟨trim text, clauses⟩
      | some token => .error (.number (.tooManyDigits token.digits)) := by
  simp only [Matcher.read, readClauses_of_cut found written, forM_checkLength]
  cases tokens.find? fun token => ¬ token.IsShort <;> rfl

end

/-! ### An equation with digits -/

/-- Digits alone are one token. -/
theorem Token.scan_digits {digits : List Char} (run : IsDigits digits) (position : Nat) :
    scan position 0 digits = .ok [⟨.number, digits, position⟩] := by
  have alone : tokenize digits = .ok [⟨.number, digits, 0⟩] :=
    HasForm.tokenize_eq (.whole ⟨false, digits, run, rfl⟩)
  have moved := scan_add alone position
  rwa [Nat.zero_add, List.map_singleton, moveBy, Nat.zero_add] at moved

/-- The tokens of an equation with digits. -/
theorem tokenize_equation {digits : List Char} (run : IsDigits digits) :
    tokenize ("r.n==".toList ++ digits) =
      .ok [⟨.name, ['r', '.', 'n'], 0⟩, ⟨.sign, ['=', '='], 3⟩, ⟨.number, digits, 5⟩] := by
  show scan 0 0 ('r' :: '.' :: 'n' :: '=' :: '=' :: digits) = _
  have name : lexeme? ('r' :: '.' :: 'n' :: '=' :: '=' :: digits) =
      some (.name, ['r', '.', 'n']) := by
    rw [lexeme?_name (by decide)]; rfl
  have sign : lexeme? ('=' :: '=' :: digits) = some (.sign, ['=', '=']) := lexeme?_sign rfl
  have blank : isBlank 'r' = false ∧ isBlank '=' = false := by decide
  simp only [scan, name, blank, sign, Bool.false_eq_true, if_false, List.length_cons,
    List.length_nil]
  rw [scan_digits run]
  rfl

/-- An equation with too many digits is none of a matcher. -/
theorem Matcher.read_equation {digits : List Char} (run : IsDigits digits)
    (many : digitLimit < digits.length) :
    Matcher.read ("r.n==" ++ String.ofList digits) =
      .error (.number (.tooManyDigits digits.length)) := by
  -- Nothing is trimmed off, as neither the start nor a digit is blank.
  have untrimmed : (trim ("r.n==" ++ String.ofList digits)).toList = "r.n==".toList ++ digits := by
    have visible : ∀ c ∈ "r.n==".toList ++ digits, isBlank c = false := by
      intro c member
      rcases List.mem_append.mp member with start | digit
      · exact Bool.eq_false_iff.mpr (List.any_eq_false.mp rfl c start)
      · exact isBlank_of_digit (run.digits c digit)
    have characters : ("r.n==" ++ String.ofList digits).toList = "r.n==".toList ++ digits := by simp
    calc (trim ("r.n==" ++ String.ofList digits)).toList
      _ = trimChars ("r.n==" ++ String.ofList digits).toList := String.toList_ofList
      _ = "r.n==".toList ++ digits := by rw [characters, trimChars, trimBoth_eq_self visible]
  have found := tokenize_equation run
  rw [← untrimmed] at found
  -- The number has all the digits.
  have long : ¬ Token.IsShort ⟨.number, digits, 5⟩ := by
    intro short
    have few := short rfl (point_not_mem run)
    rw [List.countP_eq_length.mpr run.digits] at few
    exact absurd many (Nat.not_lt.mpr few)
  -- With a zero in the place of the digits, the tokens are those of another equation.
  have written : WritesClauses
      ([⟨.name, ['r', '.', 'n'], 0⟩, ⟨.sign, ['=', '='], 3⟩, ⟨.number, digits, 5⟩].map cut)
      [.equation (.plain (.field ⟨"r", "n", []⟩)) (.plain (.literal (.whole 0))) false] := by
    obtain ⟨tokens, tokenized, written⟩ :=
      readClauses_eq_ok_iff.mp (show readClauses "r.n==0".toList = _ from rfl)
    obtain rfl :=
      Except.ok.inj (tokenized.symm.trans (tokenize_equation ⟨by decide, List.all_eq_true.mp rfl⟩))
    rw [List.map_cons, List.map_cons, List.map_singleton, cut_of_kind (by decide),
      cut_of_kind (by decide), cut, if_neg long]
    exact written
  -- It is the first token that is too long.
  rw [Matcher.read_of_cut found written]
  simp [long, isShort_of_kind, Token.digits, List.countP_eq_length.mpr run.digits]

end AccessControl
