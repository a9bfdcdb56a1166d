import AccessControl.Proofs.Matcher.Grammar

/-! Reading finds the clauses that the tokens of a text write, and nothing else makes a matcher. -/

namespace AccessControl

open AccessControl.Text AccessControl.Token

/-! ### What is written is read -/

section

variable {tokens rest : List Token}

/-- Without an opening parenthesis behind it no token opens a call. -/
theorem opensCall?_eq_none (token : Token) (free : ∀ next ∈ rest.head?, next.kind ≠ .opening) :
    opensCall? token rest = none := by
  cases rest with
  | nil => rfl
  | cons next more => simp [opensCall?, free next (by simp)]

/-- A token with a sign is of that kind and has its text. -/
theorem isSign_iff {token : Token} {sign : String} :
    token.isSign sign = true ↔ token.kind = .sign ∧ token.text = sign.toList := by
  simp [Token.isSign]

/-- The sign between clauses relates no sides. -/
theorem ofSign?_of_joins {sign : Token} (joins : sign.isSign "&&" = true) :
    Clause.ofSign? sign = none := by
  obtain ⟨kind, text⟩ := isSign_iff.mp joins
  simp [Clause.ofSign?, Token.isSign, Token.string, kind, text, Inequality.ofSymbol?,
    Inequality.symbol]

/-- The signs of equations relate their sides. -/
theorem ofSign?_of_equation {sign : Token} {negated : Bool}
    (symbol : sign.isSign (if negated then "!=" else "==") = true) :
    Clause.ofSign? sign = some fun lhs rhs => .equation lhs rhs negated := by
  obtain ⟨kind, text⟩ := isSign_iff.mp symbol
  cases negated <;> simp [Clause.ofSign?, Token.isSign, kind, text]

/-- The signs of inequalities relate their sides. -/
theorem ofSign?_of_inequality {sign : Token} {inequality : Inequality}
    (symbol : sign.isSign inequality.symbol = true) :
    Clause.ofSign? sign = some fun lhs rhs => .inequality inequality lhs rhs := by
  obtain ⟨kind, text⟩ := isSign_iff.mp symbol
  cases inequality <;>
    simp [Clause.ofSign?, Token.isSign, Token.string, kind, text, Inequality.ofSymbol?,
      Inequality.symbol]

/-- A sign that relates sides is one of an equation or of an inequality. -/
theorem ofSign?_cases {sign : Token} {relate : Operand → Operand → Clause}
    (found : Clause.ofSign? sign = some relate) :
    (∃ negated, sign.isSign (if negated then "!=" else "==") = true ∧
      relate = fun lhs rhs => .equation lhs rhs negated) ∨
    ∃ inequality : Inequality, sign.isSign inequality.symbol = true ∧
      relate = fun lhs rhs => .inequality inequality lhs rhs := by
  unfold Clause.ofSign? at found
  -- The two signs of equations come first, and then the symbols are looked through.
  split at found
  · rename_i equal
    exact .inl ⟨false, equal, (Option.some.inj found).symm⟩
  split at found
  · rename_i other
    exact .inl ⟨true, other, (Option.some.inj found).symm⟩
  split at found
  · rename_i kind
    obtain ⟨inequality, symbol, rfl⟩ := Option.map_eq_some_iff.mp found
    have same := List.find?_some symbol
    rw [beq_iff_eq, Token.string] at same
    refine .inr ⟨inequality, isSign_iff.mpr ⟨by simpa using kind, ?_⟩, rfl⟩
    simp [same]
  · cases found

/-- A sign that relates sides opens nothing. -/
theorem kind_of_relates {sign : Token} {relate : Operand → Operand → Clause}
    (found : Clause.ofSign? sign = some relate) : sign.kind = .sign := by
  rcases ofSign?_cases found with ⟨_, symbol, _⟩ | ⟨_, symbol, _⟩
  all_goals exact (isSign_iff.mp symbol).1

/-- Where there is only a sign between clauses behind, no parenthesis opens. -/
theorem kind_of_joins (ends : ∀ next ∈ rest.head?, next.isSign "&&" = true) :
    ∀ next ∈ rest.head?, next.kind ≠ .opening := by
  intro next first equal
  have kind := (isSign_iff.mp (ends next first)).1
  rw [equal] at kind
  cases kind

/-- The token is read as the argument that it writes after a change, unless it fails a check. Only
numbers are changed or fail. -/
structure Token.IsReadThrough (change : Token → Token) (check : Token → Except ParseFault Unit)
    (token : Token) : Prop where
  kind : (change token).kind = token.kind
  same : token.kind ≠ .number → change token = token
  passes : token.kind ≠ .number → check token = .ok ()
  read : ∀ argument, WritesArgument (change token) argument →
    Argument.ofToken token = (check token).map fun _ => argument

variable {change : Token → Token} {check : Token → Except ParseFault Unit}

/-- Arguments are read up to the parenthesis behind them, if all tokens pass. -/
theorem parseArguments_through {arguments : List Argument} {closing : Token}
    (through : ∀ token ∈ tokens, token.IsReadThrough change check)
    (written : WritesArguments (tokens.map change) arguments) (closes : closing.kind = .closing)
    (rest : List Token) :
    parseArguments (tokens ++ closing :: rest) = (forM tokens check).map fun _ =>
      (arguments, rest) := by
  -- The induction is on what the changed tokens write. Behind each argument there is a comma or the
  -- last parenthesis, and so none of them opens a call.
  generalize changed : tokens.map change = others at written
  induction written generalizing tokens with
  | one first =>
    obtain ⟨token, rfl, rfl⟩ := List.map_eq_singleton_iff.mp changed
    have plain : opensCall? token (closing :: rest) = none :=
      opensCall?_eq_none token (by simp [closes])
    have read := (through token (by simp)).read _ first
    cases fits : check token <;> simp [parseArguments, plain, read, fits, closes, Except.map]
  | more first kind others ih =>
    obtain ⟨token, _, rfl, rfl, separated⟩ := List.map_eq_cons_iff.mp changed
    obtain ⟨comma, more, rfl, rfl, behind⟩ := List.map_eq_cons_iff.mp separated
    have separator := through comma (by simp)
    rw [separator.kind] at kind
    have plain : opensCall? token (comma :: (more ++ closing :: rest)) = none :=
      opensCall?_eq_none token (by simp [kind])
    have read := (through token (by simp)).read _ first
    have separates := separator.passes (by simp [kind])
    have later := ih (fun other member => through other (by simp [member])) behind
    cases fits : check token with
    | error fault => simp [parseArguments, plain, read, fits, Except.map]
    | ok =>
      cases others : forM more check <;>
        simp [parseArguments, plain, read, fits, kind, later, separates, others, Except.map]

/-- A side is read up to its end, where no parenthesis opens, if all tokens pass. -/
theorem parseOperand_through {operand : Operand}
    (through : ∀ token ∈ tokens, token.IsReadThrough change check)
    (written : WritesOperand (tokens.map change) operand) (rest : List Token)
    (free : ∀ next ∈ rest.head?, next.kind ≠ .opening) :
    parseOperand (tokens ++ rest) = (forM tokens check).map fun _ => (operand, rest) := by
  generalize changed : tokens.map change = others at written
  cases written with
  -- Such a side is one token.
  | plain written =>
    obtain ⟨token, rfl, rfl⟩ := List.map_eq_singleton_iff.mp changed
    have read := (through token (by simp)).read _ written
    cases fits : check token <;>
      simp [parseOperand, opensCall?_eq_none token free, read, fits, Except.map]
  | call written =>
    cases written with
    | call kind plain opens inside closes =>
      obtain ⟨name, _, rfl, rfl, called⟩ := List.map_eq_cons_iff.mp changed
      obtain ⟨opening, _, rfl, rfl, behind⟩ := List.map_eq_cons_iff.mp called
      obtain ⟨arguments, _, rfl, rfl, closed⟩ := List.map_eq_append_iff.mp behind
      obtain ⟨closing, rfl, rfl⟩ := List.map_eq_singleton_iff.mp closed
      -- Of the tokens of a call only those of its arguments can fail.
      have start := through name (by simp)
      have opener := through opening (by simp)
      have closer := through closing (by simp)
      rw [start.kind] at kind
      rw [opener.kind] at opens
      rw [closer.kind] at closes
      rw [start.same (by simp [kind])] at plain ⊢
      have read := parseArguments_through
        (fun token member => through token (by simp [member])) inside
        closes rest
      have same : forM (name :: opening :: (arguments ++ [closing])) check =
          forM arguments check := by
        simp only [List.forM_cons, List.forM_append, List.forM_nil, start.passes (by simp [kind]),
          opener.passes (by simp [opens]), closer.passes (by simp [closes]), ok_bind]
        cases forM arguments check <;> rfl
      rw [same]
      cases fits : forM arguments check <;>
        simp [parseOperand, opensCall?, kind, opens, parseCall, plain, read, fits, Except.map]

/-- Two sides with a sign between them are read as the clause that relates them, if all tokens
pass. -/
theorem parseClause_relate {left right : List Token} {lhs rhs : Operand} {sign : Token}
    {relate : Operand → Operand → Clause}
    (through : ∀ token ∈ left ++ sign :: right, token.IsReadThrough change check)
    (before : WritesOperand (left.map change) lhs)
    (found : Clause.ofSign? (change sign) = some relate)
    (behind : WritesOperand (right.map change) rhs)
    (free : ∀ next ∈ rest.head?, next.kind ≠ .opening) :
    parseClause (left ++ sign :: right ++ rest) =
      (forM (left ++ sign :: right) check).map fun _ => (relate lhs rhs, rest) := by
  -- The sides are read in turn, and the sign between them is no number.
  have between := through sign (by simp)
  have kind : sign.kind = .sign := between.kind.symm.trans (kind_of_relates found)
  rw [between.same (by simp [kind])] at found
  have first := parseOperand_through (fun token member => through token (by simp [member])) before
    (sign :: (right ++ rest)) (by simp [kind])
  have second := parseOperand_through
    (fun token member => through token (by simp [member])) behind rest
    free
  rw [List.append_assoc, List.cons_append]
  simp only [parseClause, first, List.forM_append, List.forM_cons,
    between.passes (by simp [kind]), ok_bind]
  cases forM left check with
  | error fault => rfl
  | ok => cases fits : forM right check <;> simp [found, second, fits, Except.map]

/-- A clause is read up to its end, which is that of all tokens or a sign between clauses, if all
its tokens pass. -/
theorem parseClause_through {clause : Clause}
    (through : ∀ token ∈ tokens, token.IsReadThrough change check)
    (written : WritesClause (tokens.map change) clause) (rest : List Token)
    (ends : ∀ next ∈ rest.head?, next.isSign "&&" = true) :
    parseClause (tokens ++ rest) = (forM tokens check).map fun _ => (clause, rest) := by
  have free := kind_of_joins ends
  generalize changed : tokens.map change = others at written
  cases written with
  -- Nothing stands behind the call but perhaps another clause.
  | call written =>
    subst changed
    have read := parseOperand_through through (.call written) rest free
    cases fits : forM tokens check with
    | error fault => simp only [parseClause, read, fits, Except.map, error_bind]
    | ok =>
      rw [fits] at read
      -- Whether or not there is more, nothing relates the call to another side.
      cases rest with
      | nil => simp only [parseClause, read, Except.map, ok_bind, Clause.ofOperand, pure_eq_ok]
      | cons sign more =>
        have other := ofSign?_of_joins (ends sign (by simp))
        simp only [parseClause, read, Except.map, ok_bind, other, Clause.ofOperand, pure_eq_ok]
  -- The sign of an equation relates its sides.
  | equation negated before symbol behind =>
    obtain ⟨left, _, rfl, rfl, related⟩ := List.map_eq_append_iff.mp changed
    obtain ⟨sign, right, rfl, rfl, rfl⟩ := List.map_eq_cons_iff.mp related
    exact parseClause_relate through before (ofSign?_of_equation symbol) behind free
  -- So does the sign of an inequality.
  | inequality inequality before symbol behind =>
    obtain ⟨left, _, rfl, rfl, related⟩ := List.map_eq_append_iff.mp changed
    obtain ⟨sign, right, rfl, rfl, rfl⟩ := List.map_eq_cons_iff.mp related
    exact parseClause_relate through before (ofSign?_of_inequality symbol) behind free

/-- Clauses are read to the end of the tokens, if all of these pass. -/
theorem parseClauses_through {clauses : List Clause}
    (through : ∀ token ∈ tokens, token.IsReadThrough change check)
    (written : WritesClauses (tokens.map change) clauses) {fuel : Nat}
    (enough : tokens.length < fuel) :
    parseClauses fuel tokens = (forM tokens check).map fun _ => clauses := by
  -- Every clause has a sign behind it or is the last one, so the fuel lasts longer than the tokens.
  generalize changed : tokens.map change = others at written
  induction written generalizing fuel tokens with
  -- This is the last clause.
  | one first =>
    subst changed
    obtain ⟨fuel, rfl⟩ : ∃ less, fuel = less + 1 := ⟨fuel - 1, by omega⟩
    have read := parseClause_through through first [] (by simp)
    rw [List.append_nil] at read
    cases fits : forM tokens check <;> simp [parseClauses, read, fits, Except.map]
  -- Another one follows behind its sign.
  | more first joins others ih =>
    obtain ⟨front, _, rfl, rfl, joined⟩ := List.map_eq_append_iff.mp changed
    obtain ⟨sign, rest, rfl, rfl, behind⟩ := List.map_eq_cons_iff.mp joined
    obtain ⟨fuel, rfl⟩ : ∃ less, fuel = less + 1 := ⟨fuel - 1, by omega⟩
    have between := through sign (by simp)
    have kind : sign.kind = .sign := between.kind.symm.trans (isSign_iff.mp joins).1
    rw [between.same (by simp [kind])] at joins
    have read := parseClause_through (fun token member => through token (by simp [member])) first
      (sign :: rest) (by simpa using joins)
    have fewer : rest.length < fuel := by
      simp only [List.length_append, List.length_cons] at enough
      omega
    have later := ih (fun token member => through token (by simp [member])) fewer behind
    simp only [parseClauses, read, List.forM_append, List.forM_cons,
      between.passes (by simp [kind]), ok_bind]
    cases forM front check with
    -- The first clause has a number that is too long.
    | error fault => rfl
    -- The others are read or not.
    | ok => cases fits : forM rest check <;> simp [joins, later, fits, Except.map]

/-- Clauses are read to the end of the tokens that write them. -/
theorem WritesClauses.parse_eq {clauses : List Clause} (written : WritesClauses tokens clauses)
    {fuel : Nat} (enough : tokens.length < fuel) : parseClauses fuel tokens = .ok clauses := by
  -- These tokens need no change, and there is nothing to check.
  have through : ∀ token ∈ tokens, token.IsReadThrough id fun _ => .ok () := fun token _ =>
    ⟨rfl, fun _ => rfl, fun _ => rfl, fun _ written => written.ofToken_eq⟩
  have passes (tokens : List Token) :
      forM tokens (fun _ => .ok () : Token → Except ParseFault Unit) = .ok () := by
    induction tokens with
    | nil => rfl
    | cons _ _ ih => exact ih
  rw [parseClauses_through through (by rwa [List.map_id]) enough, passes]
  rfl

/-- The same tokens do not write two lists of clauses. -/
theorem WritesClauses.unique {clauses others : List Clause} (written : WritesClauses tokens clauses)
    (again : WritesClauses tokens others) : clauses = others := by
  -- Both are what is read from the tokens, and reading has but one result.
  have read := written.parse_eq (Nat.lt_succ_self tokens.length)
  rw [again.parse_eq (Nat.lt_succ_self tokens.length)] at read
  exact (Except.ok.inj read).symm

end

/-! ### What is read is written -/

/-- The reading of tokens fails because of their form, or because one of them is too long a
number. -/
def FaultsIn {α : Type} (tokens : List Token) (result : Except ParseFault α) : Prop :=
  (∃ fault, result = .error (.form fault)) ∨
    ∃ token ∈ tokens, ¬ token.IsShort ∧ result = .error (.tooManyDigits token.digits)

/-- What is read is written by the tokens before the rest, or else the tokens are at fault. -/
def Reads {α : Type} (Writes : List Token → α → Prop) (tokens : List Token)
    (result : Parsed α) : Prop :=
  (∃ used rest a, tokens = used ++ rest ∧ Writes used a ∧ result = .ok (a, rest)) ∨
    FaultsIn tokens result

section

variable {α β : Type} {tokens : List Token}

/-- A fault of form is one in any tokens. -/
theorem FaultsIn.form {result : Except ParseFault α} (fault : SyntaxFault)
    (failed : result = .error (.form fault)) : FaultsIn tokens result :=
  .inl ⟨fault, failed⟩

/-- A fault in some of the tokens is one in all of them, if reading these ends with it. -/
theorem FaultsIn.within {part : List Token} {first : Except ParseFault α}
    {result : Except ParseFault β} (faults : FaultsIn part first) (inside : part ⊆ tokens)
    (ends : ∀ fault, first = .error fault → result = .error fault) : FaultsIn tokens result := by
  rcases faults with ⟨fault, failed⟩ | ⟨token, member, long, failed⟩
  · -- The fault is one of form.
    exact .inl ⟨fault, ends _ failed⟩
  · -- The long number is among the tokens as well.
    exact .inr ⟨token, inside member, long, ends _ failed⟩

/-- A lexeme that is read as no argument is at fault. -/
theorem Token.IsLexeme.faultsIn {token : Token} {fault : ParseFault} {result : Except ParseFault α}
    (lexeme : token.IsLexeme) (member : token ∈ tokens)
    (failed : Argument.ofToken token = .error fault) (ends : result = .error fault) :
    FaultsIn tokens result := by
  rcases lexeme.ofToken_cases with ⟨_, read, _⟩ | ⟨long, other⟩ | other
  · -- The token is read.
    cases failed.symm.trans read
  · -- The number is too long.
    obtain rfl := Except.error.inj (failed.symm.trans other)
    exact .inr ⟨token, member, long, ends⟩
  · -- The token is misplaced.
    obtain rfl := Except.error.inj (failed.symm.trans other)
    exact .form _ ends

/-- Tokens write arguments and close the parenthesis behind them. -/
def WritesInside (tokens : List Token) (arguments : List Argument) : Prop :=
  ∃ inside closing, tokens = inside ++ [closing] ∧ closing.kind = .closing ∧
    WritesArguments inside arguments

/-- Arguments are read as those that the tokens write. -/
theorem parseArguments_reads (lexemes : ∀ token ∈ tokens, token.IsLexeme) :
    Reads WritesInside tokens (parseArguments tokens) := by
  -- The cases are the branches of the reader. All but two of them are faults: an argument that is
  -- the last one, and an argument with others behind a comma.
  fun_induction parseArguments tokens with
  | case1 => exact .inr (.form _ rfl)
  | case2 => exact .inr (.form _ rfl)
  | case3 token rest plain fault failed =>
    exact .inr ((lexemes token (by simp)).faultsIn (by simp) failed rfl)
  | case4 => exact .inr (.form _ rfl)
  | case5 token argument read next rest closes =>
    have written := (lexemes token (by simp)).writes read
    have inside : WritesInside [token, next] [argument] :=
      ⟨[token], next, rfl, by simpa using closes, .one written⟩
    exact .inl ⟨[token, next], rest, [argument], rfl, inside, rfl⟩
  | case6 token argument read next rest other joins plain ih =>
    have written := (lexemes token (by simp)).writes read
    -- The other arguments come with the parenthesis behind them.
    rcases ih fun token member => lexemes token (by simp [member]) with
      ⟨used, left, arguments, split, ⟨inside, closing, rfl, closes, others⟩, more⟩ | faults
    · have comma : next.kind = .comma := by simpa using joins
      refine .inl ⟨token :: next :: (inside ++ [closing]), left, argument :: arguments,
        by simp [split], ?_, by rw [more]; rfl⟩
      exact ⟨token :: next :: inside, closing, rfl, closes, .more written comma others⟩
    · -- The others have a fault.
      exact .inr (faults.within (by simp) fun fault failed => by rw [failed]; rfl)
  | case7 => exact .inr (.form _ rfl)

/-- A parenthesis that opens a call stands right behind a name. -/
theorem opensCall?_eq_some {token opening : Token} {rest : List Token}
    (found : opensCall? token rest = some opening) :
    token.kind = .name ∧ opening.kind = .opening ∧ ∃ more, rest = opening :: more := by
  unfold opensCall? at found
  split at found
  · -- There is another token.
    split at found
    · rename_i next more both
      obtain rfl := Option.some.inj found
      obtain ⟨kind, opens⟩ := by simpa using both
      exact ⟨kind, opens, more, rfl⟩
    · -- It is no parenthesis, or not behind a name.
      cases found
  · -- There is none.
    cases found

/-- A call is read as the one that the tokens from its name on write. -/
theorem parseCall_reads {name opening : Token} {rest : List Token} (kind : name.kind = .name)
    (opens : opening.kind = .opening) (lexemes : ∀ token ∈ rest, token.IsLexeme) :
    Reads WritesCall (name :: opening :: rest) (parseCall name (opening :: rest)) := by
  unfold parseCall
  split
  · -- A name with points is none of a function.
    exact .inr (.form _ rfl)
  · rename_i plain
    rw [List.drop_one, List.tail_cons]
    rcases parseArguments_reads lexemes with
      ⟨used, left, arguments, split, ⟨inside, closing, rfl, closes, written⟩, read⟩ | faults
    · -- The arguments and their parenthesis are read.
      have call := WritesCall.call kind (by simpa using plain) opens written closes
      exact .inl ⟨_, left, _, by simp [split], call, by rw [read]; rfl⟩
    · -- One of them has a fault.
      exact .inr (faults.within (by simp) fun fault failed => by rw [failed]; rfl)

/-- A side is read as the one that the tokens write. -/
theorem parseOperand_reads (lexemes : ∀ token ∈ tokens, token.IsLexeme) :
    Reads WritesOperand tokens (parseOperand tokens) := by
  unfold parseOperand
  split
  · -- There is no token.
    exact .inr (.form _ rfl)
  rename_i token rest
  split
  · -- A name with a parenthesis behind it starts a call.
    rename_i found
    obtain ⟨opening, found⟩ := Option.isSome_iff_exists.mp found
    obtain ⟨kind, opens, more, rfl⟩ := opensCall?_eq_some found
    have others : ∀ token ∈ more, token.IsLexeme := fun token member =>
      lexemes token (by simp [member])
    rcases parseCall_reads kind opens others with ⟨used, left, c, split, written, read⟩ | faults
    · -- The call is read.
      exact .inl ⟨used, left, .call c, split, .call written, by rw [read]; rfl⟩
    · -- The call has a fault.
      exact .inr (faults.within (List.Subset.refl _) fun fault failed => by rw [failed]; rfl)
  · -- Any other token makes a side by itself.
    have lexeme := lexemes token (by simp)
    cases read : Argument.ofToken token with
    -- The token is an argument.
    | ok argument =>
      exact .inl ⟨[token], rest, .plain argument, rfl, .plain (lexeme.writes read), rfl⟩
    -- The token has a fault.
    | error fault => exact .inr (lexeme.faultsIn (by simp) read rfl)

/-- A side is a clause of its own only if it is a call. -/
theorem ofOperand_cases {operand : Operand} (written : WritesOperand tokens operand)
    (position : Nat) :
    (∃ clause, WritesClause tokens clause ∧ Clause.ofOperand position operand = .ok clause) ∨
      ∃ fault, Clause.ofOperand position operand = .error (.form fault) := by
  cases written with
  -- A side alone is no clause.
  | plain => exact .inr ⟨_, rfl⟩
  -- A call is one.
  | call written => exact .inl ⟨_, .call written, rfl⟩

/-- Two sides with a sign between them are written as the clause that relates them. -/
theorem writesClause_relate {left right : List Token} {lhs rhs : Operand} {sign : Token}
    {relate : Operand → Operand → Clause} (before : WritesOperand left lhs)
    (found : Clause.ofSign? sign = some relate) (behind : WritesOperand right rhs) :
    WritesClause (left ++ sign :: right) (relate lhs rhs) := by
  rcases ofSign?_cases found with ⟨negated, symbol, rfl⟩ | ⟨inequality, symbol, rfl⟩
  · -- An equation, or its negation.
    exact .equation negated before symbol behind
  · -- An inequality.
    exact .inequality inequality before symbol behind

/-- A clause is read as the one that the tokens write. -/
theorem parseClause_reads (lexemes : ∀ token ∈ tokens, token.IsLexeme) :
    Reads WritesClause tokens (parseClause tokens) := by
  unfold parseClause
  rcases parseOperand_reads lexemes with ⟨left, rest, lhs, rfl, before, read⟩ | faults
  · -- What stands behind the first side decides between an equation or the like and a call.
    rw [read, ok_bind]
    generalize ((left ++ rest).head?.map Token.position).getD 0 = position
    have alone := ofOperand_cases before position
    cases rest with
    -- Nothing stands behind the side.
    | nil =>
      rcases alone with ⟨clause, written, call⟩ | ⟨fault, failed⟩
      · exact .inl ⟨left, [], clause, rfl, written, by simp only [call, ok_bind, pure_eq_ok]⟩
      · exact .inr (.form fault (by simp only [failed, error_bind]))
    | cons sign more =>
      cases found : Clause.ofSign? sign with
      -- What stands behind it relates nothing.
      | none =>
        rcases alone with ⟨clause, written, call⟩ | ⟨fault, failed⟩
        · exact .inl ⟨left, sign :: more, clause, rfl, written,
            by simp only [found, call, ok_bind, pure_eq_ok]⟩
        · exact .inr (.form fault (by simp only [found, failed, error_bind]))
      -- There is a sign with another side to be read.
      | some relate =>
        have others : ∀ token ∈ more, token.IsLexeme := fun token member =>
          lexemes token (by simp [member])
        rcases parseOperand_reads others with ⟨right, rest, rhs, rfl, behind, again⟩ | faults
        · exact .inl ⟨left ++ sign :: right, rest, relate lhs rhs, by simp,
            writesClause_relate before found behind,
            by simp only [found, again, ok_bind, pure_eq_ok]⟩
        · exact .inr (faults.within (by simp) fun fault failed => by
            simp only [found, failed, error_bind])
  · -- The first side has a fault.
    exact .inr (faults.within (List.Subset.refl _) fun fault failed => by rw [failed]; rfl)

/-- Clauses are read as those that all tokens write, or else the tokens are at fault. -/
theorem parseClauses_cases (fuel : Nat) (lexemes : ∀ token ∈ tokens, token.IsLexeme) :
    (∃ clauses, WritesClauses tokens clauses ∧ parseClauses fuel tokens = .ok clauses) ∨
      FaultsIn tokens (parseClauses fuel tokens) := by
  -- Running out of fuel would be a fault of form as well, so it does not matter here how much there
  -- is.
  induction fuel generalizing tokens with
  | zero => exact .inr (.form _ rfl)
  | succ fuel ih =>
    rcases parseClause_reads lexemes with ⟨used, rest, clause, rfl, first, read⟩ | faults
    · cases rest with
      -- This is the last clause.
      | nil =>
        rw [List.append_nil] at read ⊢
        exact .inl ⟨[clause], .one first, by simp only [parseClauses, read, ok_bind, pure_eq_ok]⟩
      | cons sign rest =>
        by_cases joins : sign.isSign "&&" = true
        · have more : ∀ token ∈ rest, token.IsLexeme := fun token member =>
            lexemes token (by simp [member])
          rcases ih more with ⟨clauses, others, later⟩ | faults
          · -- All of the others are read.
            exact .inl ⟨clause :: clauses, .more first joins others,
              by simp only [parseClauses, read, ok_bind, joins, if_true, later, pure_eq_ok]⟩
          · -- One of the others has a fault.
            exact .inr (faults.within (by simp) fun fault later => by
              simp only [parseClauses, read, ok_bind, joins, if_true, later, error_bind])
        · -- Nothing but the sign between clauses may follow one.
          exact .inr (.form _ (by simp only [parseClauses, read, ok_bind, joins]; rfl))
    · -- The first clause has a fault.
      exact .inr (faults.within (List.Subset.refl _) fun fault failed => by
        simp only [parseClauses, failed, error_bind])

end

/-! ### Texts -/

section

variable {text : List Char}

/-- A text is read as the clauses that its tokens write, or else it is at fault: in its form, or
because one of its tokens is too long a number. -/
theorem readClauses_outcomes (text : List Char) :
    (∃ tokens clauses, tokenize text = .ok tokens ∧ WritesClauses tokens clauses ∧
      readClauses text = .ok clauses) ∨
    (∃ fault, readClauses text = .error (.form fault)) ∨
    ∃ tokens, tokenize text = .ok tokens ∧
      ∃ token ∈ tokens, ¬ token.IsShort ∧
        readClauses text = .error (.tooManyDigits token.digits) := by
  unfold readClauses
  cases found : tokenize text with
  -- The text has no tokens.
  | error fault => exact .inr (.inl ⟨fault, rfl⟩)
  | ok tokens =>
    cases tokens with
    -- The text is empty.
    | nil => exact .inr (.inl ⟨.empty, rfl⟩)
    | cons token rest =>
      rcases parseClauses_cases ((token :: rest).length + 1) (mem_tokenize found) with
        ⟨clauses, written, read⟩ | form | long
      · -- All clauses are read.
        exact .inl ⟨_, clauses, rfl, written, read⟩
      · -- There is a fault of form.
        exact .inr (.inl form)
      · -- A number is too long.
        exact .inr (.inr ⟨_, rfl, long⟩)

/-- Clauses that the tokens of a text write are read from it. -/
theorem WritesClauses.readClauses_eq {tokens : List Token} {clauses : List Clause}
    (found : tokenize text = .ok tokens) (written : WritesClauses tokens clauses) :
    readClauses text = .ok clauses := by
  unfold readClauses
  cases tokens with
  | nil =>
    -- Reading from no tokens comes to nothing.
    exact absurd (written.parse_eq Nat.one_pos) (by simp [parseClauses, parseClause, parseOperand])
  | cons token rest =>
    simp only [found]
    exact written.parse_eq (Nat.lt_succ_self _)

/-- A text is read as the clauses that its tokens write, or else it is at fault in its form. -/
theorem readClauses_cases
    (short : ∀ tokens, tokenize text = .ok tokens → ∀ token ∈ tokens, token.IsShort) :
    (∃ tokens clauses, tokenize text = .ok tokens ∧ WritesClauses tokens clauses ∧
      readClauses text = .ok clauses) ∨ ∃ fault, readClauses text = .error (.form fault) := by
  refine (readClauses_outcomes text).imp_right ?_
  rintro (form | ⟨tokens, found, token, member, long, _⟩)
  · -- There is a fault of form.
    exact form
  · -- No number is too long.
    exact absurd (short tokens found token member) long

/-- A text is read as given clauses exactly if its tokens write them. -/
theorem readClauses_eq_ok_iff {clauses : List Clause} : readClauses text = .ok clauses ↔
    ∃ tokens, tokenize text = .ok tokens ∧ WritesClauses tokens clauses := by
  constructor
  · intro read
    rcases readClauses_outcomes text with
      ⟨tokens, others, found, written, same⟩ | ⟨_, failed⟩ | ⟨_, _, _, _, _, failed⟩
    · -- What is read is written.
      obtain rfl := Except.ok.inj (read.symm.trans same)
      exact ⟨tokens, found, written⟩
    · -- There is a fault of form.
      cases read.symm.trans failed
    · -- A number is too long.
      cases read.symm.trans failed
  · -- What is written is read.
    rintro ⟨tokens, found, written⟩
    exact written.readClauses_eq found

end

/-- A matcher is read from a text exactly if it has its characters, without the blanks around them,
and the clauses that are read from these. -/
theorem Matcher.read_eq_ok_iff {text : String} {matcher : Matcher} :
    Matcher.read text = .ok matcher ↔
      matcher.expression = trim text ∧ readClauses (trim text).toList = .ok matcher.clauses := by
  obtain ⟨expression, clauses⟩ := matcher
  cases found : readClauses (trim text).toList with
  -- The text is refused.
  | error fault => simp [Matcher.read, found]
  -- The text is read.
  | ok clauses => simp [Matcher.read, found, eq_comm]

/-- A text without too long whole numbers is read as a matcher exactly if its tokens write the
clauses of the matcher. They write no others, and a text whose tokens write none has a wrong
syntax. -/
theorem Matcher.read_iff_writes (text : String)
    (short : ∀ tokens, tokenize (trim text).toList = .ok tokens → ∀ token ∈ tokens, token.IsShort) :
    (∀ matcher, Matcher.read text = .ok matcher ↔ matcher.expression = trim text ∧
      ∃ tokens, tokenize (trim text).toList = .ok tokens ∧ WritesClauses tokens matcher.clauses) ∧
    (∀ tokens clauses others,
      WritesClauses tokens clauses → WritesClauses tokens others → clauses = others) ∧
    ((¬ ∃ tokens clauses,
      tokenize (trim text).toList = .ok tokens ∧ WritesClauses tokens clauses) →
        ∃ fault, Matcher.read text = .error (.syntaxFault fault (trim text))) := by
  have cases := readClauses_cases short
  refine ⟨fun matcher => ⟨fun read => ?_, fun written => ?_⟩,
    fun _ _ _ written again => written.unique again, fun none => ?_⟩
  · rcases cases with ⟨tokens, clauses, found, written, same⟩ | ⟨fault, failed⟩
    · -- The clauses are those that are written.
      simp only [Matcher.read, same] at read
      obtain rfl := Except.ok.inj read
      exact ⟨rfl, tokens, found, written⟩
    · -- Nothing is read.
      simp only [Matcher.read, failed] at read
      cases read
  · -- What is written is read.
    obtain ⟨expression, clauses⟩ := matcher
    obtain ⟨rfl, tokens, found, written⟩ := written
    simp only [Matcher.read, written.readClauses_eq found]
  · rcases cases with ⟨tokens, clauses, found, written, _⟩ | ⟨fault, failed⟩
    · -- There are tokens that write clauses.
      exact absurd ⟨tokens, clauses, found, written⟩ none
    · -- There is a fault of form, as no number is too long.
      exact ⟨fault, by simp only [Matcher.read, failed, ParseFault.error]⟩

/-- The call and the inequality of a matcher with a role and an age. -/
theorem Matcher.read_iff_writes_age :
    (∀ tokens, tokenize (trim " g(r.sub, 'staff') && r.age >= -18").toList = .ok tokens →
      ∀ token ∈ tokens, token.IsShort) ∧
    ∃ tokens, tokenize (trim " g(r.sub, 'staff') && r.age >= -18").toList = .ok tokens ∧
      WritesClauses tokens [
        .call ⟨"g", [.field ⟨"r", "sub", []⟩, .literal (.text "staff")]⟩,
        .inequality .atLeast (.plain (.field ⟨"r", "age", []⟩))
          (.plain (.literal (.whole (-18))))] := by
  have found : tokenize (trim " g(r.sub, 'staff') && r.age >= -18").toList = .ok
      [⟨.name, ['g'], 0⟩, ⟨.opening, ['('], 1⟩, ⟨.name, ['r', '.', 's', 'u', 'b'], 2⟩,
        ⟨.comma, [','], 7⟩, ⟨.string, ['\'', 's', 't', 'a', 'f', 'f', '\''], 9⟩,
        ⟨.closing, [')'], 16⟩, ⟨.sign, ['&', '&'], 18⟩, ⟨.name, ['r', '.', 'a', 'g', 'e'], 21⟩,
        ⟨.sign, ['>', '='], 27⟩, ⟨.number, ['-', '1', '8'], 30⟩] := rfl
  have short : ∀ tokens, tokenize (trim " g(r.sub, 'staff') && r.age >= -18").toList = .ok tokens →
      ∀ token ∈ tokens, token.IsShort := by
    intro tokens again
    obtain rfl := Except.ok.inj (found.symm.trans again)
    decide
  exact ⟨short, (((Matcher.read_iff_writes _ short).1
    ⟨"g(r.sub, 'staff') && r.age >= -18", _⟩).mp rfl).2⟩

end AccessControl
