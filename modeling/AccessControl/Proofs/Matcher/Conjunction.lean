import AccessControl.Matcher.Evaluation
import AccessControl.Proofs.Matcher.Coverage
import AccessControl.Proofs.Matcher.Parser

/-! Texts of matchers with `&&` between them make one matcher, of the clauses of both. -/

namespace AccessControl

open AccessControl.Text AccessControl.Token

/-! ### Clauses further on in a text -/

section

variable {tokens : List Token}

/-- A token writes the same argument at any place. -/
theorem WritesArgument.moveBy {token : Token} {argument : Argument}
    (written : WritesArgument token argument) (distance : Nat) :
    WritesArgument (token.moveBy distance) argument := by
  cases written with
  -- The position of a token is not looked at.
  | quoted kind => exact .quoted kind
  | whole value kind point read => exact .whole value kind point read
  | real value kind point read => exact .real value kind point read
  | field ref kind written => exact .field ref kind written
  | word kind shape plain => exact .word kind shape plain

/-- Tokens write the same arguments at any place. -/
theorem WritesArguments.moveBy {arguments : List Argument}
    (written : WritesArguments tokens arguments)
    (distance : Nat) : WritesArguments (tokens.map (Token.moveBy distance)) arguments := by
  induction written with
  -- A single argument moves with its token.
  | one first => exact .one (first.moveBy distance)
  -- With more of them, all tokens move.
  | more first kind _ ih => exact .more (first.moveBy distance) kind ih

/-- Tokens write the same call at any place. -/
theorem WritesCall.moveBy {c : Call} (written : WritesCall tokens c) (distance : Nat) :
    WritesCall (tokens.map (Token.moveBy distance)) c := by
  cases written with
  | call kind plain opens inside closes =>
    rw [List.map_cons, List.map_cons, List.map_append]
    exact .call kind plain opens (inside.moveBy distance) closes

/-- Tokens write the same side at any place. -/
theorem WritesOperand.moveBy {operand : Operand} (written : WritesOperand tokens operand)
    (distance : Nat) : WritesOperand (tokens.map (Token.moveBy distance)) operand := by
  cases written with
  -- The operand is a single token.
  | plain written => exact .plain (written.moveBy distance)
  -- The operand is a call.
  | call written => exact .call (written.moveBy distance)

/-- Tokens write the same clause at any place. -/
theorem WritesClause.moveBy {clause : Clause} (written : WritesClause tokens clause)
    (distance : Nat) : WritesClause (tokens.map (Token.moveBy distance)) clause := by
  cases written with
  -- The clause is a call.
  | call written => exact .call (written.moveBy distance)
  -- The sign moves between the two sides.
  | equation negated before symbol behind =>
    rw [List.map_append, List.map_cons]
    exact .equation negated (before.moveBy distance) symbol (behind.moveBy distance)
  | inequality inequality before symbol behind =>
    rw [List.map_append, List.map_cons]
    exact .inequality inequality (before.moveBy distance) symbol (behind.moveBy distance)

/-- Tokens write the same clauses at any place. -/
theorem WritesClauses.moveBy {clauses : List Clause} (written : WritesClauses tokens clauses)
    (distance : Nat) : WritesClauses (tokens.map (Token.moveBy distance)) clauses := by
  induction written with
  -- A single clause moves with its tokens.
  | one first => exact .one (first.moveBy distance)
  -- With more of them, the sign that joins them moves as well.
  | more first joins _ ih =>
    rw [List.map_append, List.map_cons]
    exact .more (first.moveBy distance) joins ih

/-- Clauses with `&&` behind them go on with other clauses. -/
theorem WritesClauses.append {others : List Token} {sign : Token} {clauses more : List Clause}
    (written : WritesClauses tokens clauses) (joins : sign.isSign "&&" = true)
    (behind : WritesClauses others more) :
    WritesClauses (tokens ++ sign :: others) (clauses ++ more) := by
  -- The sign and the other clauses come behind the last one of the first clauses.
  induction written with
  | one first => exact .more first joins behind
  | more first inner _ ih =>
    rw [List.append_assoc, List.cons_append]
    exact .more first inner ih

end

/-! ### Texts with `&&` between them -/

section

variable {first second behind before : List Char}

/-- The tokens of two texts with a sign and blanks between them are those of both, and the sign. -/
theorem tokenize_join {symbol : String} (listed : symbol.toList ∈ signs)
    {tokens others : List Token}
    (found : tokenize first = .ok tokens) (again : tokenize second = .ok others)
    (blank : ∀ c ∈ behind, isBlank c = true) (blanks : ∀ c ∈ before, isBlank c = true) :
    ∃ sign distance, sign.isSign symbol = true ∧
      tokenize (first ++ (behind ++ ((" " ++ symbol ++ " ").toList ++ (before ++ second)))) =
        .ok (tokens ++ sign :: others.map (Token.moveBy distance)) := by
  -- The blanks of the seam stand in two groups, with nothing but the sign between them.
  have front : ∀ c ∈ behind ++ [' '], isBlank c = true := by
    simpa [or_imp, forall_and] using ⟨blank, rfl⟩
  have back : ∀ c ∈ ' ' :: before, isBlank c = true := List.forall_mem_cons.mpr ⟨rfl, blanks⟩
  generalize place : 0 + first.length + (behind ++ [' ']).length = position
  have sign := scan_add (HasForm.sign listed).tokenize_eq position
  rw [Nat.zero_add] at sign
  generalize passed : position + symbol.toList.length + (' ' :: before).length = distance
  have later := scan_add again distance
  rw [Nat.zero_add] at later
  refine ⟨moveBy position ⟨.sign, symbol.toList, 0⟩, distance, isSign_iff.mpr ⟨rfl, rfl⟩, ?_⟩
  calc tokenize (first ++ (behind ++ ((" " ++ symbol ++ " ").toList ++ (before ++ second))))
      =
      scan 0 0 (first ++ ((behind ++ [' ']) ++ (symbol.toList ++ (' ' :: before ++ second)))) := by
        simp [tokenize]
    _ = (scan position 0 (symbol.toList ++ (' ' :: before ++ second))).map (tokens ++ ·) := by
        rw [scan_append_blanks (by simp) front found, place]
    _ = ((scan distance 0 second).map
          ([moveBy position ⟨.sign, symbol.toList, 0⟩] ++ ·)).map (tokens ++ ·) := by
        rw [scan_append_blanks (by simp) back sign, passed, List.map_singleton]
    _ = _ := by
        rw [later]
        rfl

/-- The clauses of two texts with `&&` and blanks between them are those of both. -/
theorem readClauses_join {clauses others : List Clause} (read : readClauses first = .ok clauses)
    (again : readClauses second = .ok others) (blank : ∀ c ∈ behind, isBlank c = true)
    (blanks : ∀ c ∈ before, isBlank c = true) :
    readClauses (first ++ (behind ++ (" && ".toList ++ (before ++ second)))) =
      .ok (clauses ++ others) := by
  obtain ⟨left, found, written⟩ := readClauses_eq_ok_iff.mp read
  obtain ⟨right, later, also⟩ := readClauses_eq_ok_iff.mp again
  obtain ⟨sign, distance, joins, joined⟩ :=
    tokenize_join (show "&&".toList ∈ signs by decide) found later blank blanks
  exact readClauses_eq_ok_iff.mpr ⟨_, joined, written.append joins (also.moveBy distance)⟩

end

/-- The clauses of a list and then of another hold if those of both do; if the first do not hold,
the others are not evaluated. -/
theorem allHold_append (environment : Environment) (clauses others : List Clause) :
    allHold environment (clauses ++ others) = do
      if ← allHold environment clauses then allHold environment others else return false := by
  induction clauses with
  -- Without clauses on the left only those on the right are asked.
  | nil => simp [allHold]
  | cons clause rest ih =>
    simp only [List.cons_append, allHold, ih]
    -- A clause that fails or does not hold ends both evaluations at once.
    cases clause.holds environment with
    | error fault => rfl
    | ok holds => cases holds <;> rfl

/-- Two texts of matchers with `&&` between them are the text of a matcher, whose clauses are those
of the first and then those of the second. Wherever both matchers have an answer, it holds if both
do. -/
theorem Matcher.read_joined {first second : String} {one other : Matcher}
    (read : Matcher.read first = .ok one) (again : Matcher.read second = .ok other) :
    ∃ both, Matcher.read (first ++ " && " ++ second) = .ok both ∧
      both.clauses = one.clauses ++ other.clauses ∧
      ∀ environment left right, one.holds environment = .ok left →
        other.holds environment = .ok right → both.holds environment = .ok (left && right) := by
  obtain ⟨_, readFirst⟩ := Matcher.read_eq_ok_iff.mp read
  obtain ⟨_, readSecond⟩ := Matcher.read_eq_ok_iff.mp again
  -- Nothing is read from blanks alone, so something of both texts stays.
  have nonempty {text : String} {clauses : List Clause}
      (read : readClauses (trim text).toList = .ok clauses) :
      trimBoth isBlank text.toList ≠ [] := by
    intro empty
    rw [trim, trimChars, empty] at read
    cases read
  obtain ⟨behind, before, blank, blanks, joined⟩ :=
    trimBoth_join " && ".toList (nonempty readFirst) (nonempty readSecond)
  have chars : (trim (first ++ " && " ++ second)).toList = (trim first).toList ++
      (behind ++ (" && ".toList ++ (before ++ (trim second).toList))) := by
    simpa only [trim, trimChars, String.toList_append, String.toList_ofList, List.append_assoc]
      using joined
  -- What is trimmed from the texts themselves but not from both together are blanks of the seam.
  have clauses := readClauses_join readFirst readSecond blank blanks
  rw [← chars] at clauses
  refine ⟨⟨_, one.clauses ++ other.clauses⟩, Matcher.read_eq_ok_iff.mpr ⟨rfl, clauses⟩, rfl, ?_⟩
  intro environment left right answer more
  rw [Matcher.holds] at answer more
  rw [Matcher.holds, allHold_append, answer, ok_bind]
  cases left with
  | false => rfl
  | true => exact more

/-- A number with a tabulator behind it, and a quoted text with the sign in it. -/
theorem Matcher.read_joined_quoted :
    Matcher.read "r.age >= 18\t" = .ok ⟨"r.age >= 18", [
      .inequality .atLeast (.plain (.field ⟨"r", "age", []⟩)) (.plain (.literal (.whole 18)))]⟩ ∧
    Matcher.read " r.sub == 'a && b'" = .ok ⟨"r.sub == 'a && b'", [
      .equation (.plain (.field ⟨"r", "sub", []⟩)) (.plain (.literal (.text "a && b"))) false]⟩ ∧
    ∃ both, Matcher.read "r.age >= 18\t &&  r.sub == 'a && b'" = .ok both ∧
      both.clauses.length = 2 ∧
      both.holds ⟨fun _ => none, Scope.ofRow "r" ⟨["age", "sub"], [.int 20, .text "a && b"]⟩
        "p" ⟨[], []⟩⟩ =
        .ok true := by
  have read : Matcher.read "r.age >= 18\t" = .ok ⟨"r.age >= 18", [
    .inequality .atLeast (.plain (.field ⟨"r", "age", []⟩)) (.plain (.literal (.whole 18)))]⟩ := rfl
  have again : Matcher.read " r.sub == 'a && b'" = .ok ⟨"r.sub == 'a && b'", [
    .equation (.plain (.field ⟨"r", "sub", []⟩)) (.plain (.literal (.text "a && b"))) false]⟩ := rfl
  obtain ⟨both, joined, clauses, holds⟩ := Matcher.read_joined read again
  refine ⟨read, again, both, joined, by rw [clauses]; rfl, ?_⟩
  exact holds _ true true (by decide +kernel) (by decide +kernel)

end AccessControl
