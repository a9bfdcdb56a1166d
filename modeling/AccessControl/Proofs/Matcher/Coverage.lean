import AccessControl.Proofs.Matcher.Lexeme

/-! The tokens of a text cover it: no character is left out but blanks, and a text is refused at the
first place where the scan can go on neither with a blank nor with a token. -/

namespace AccessControl

open AccessControl.Text

namespace Token

/-! ### The scan -/

/-- The places of a text that a scan from the left comes to, with the tokens before them. It goes on
behind a blank, and behind the longest token that can start where it is. -/
inductive Reaches (text : List Char) : Nat → List Token → Prop
  | start : Reaches text 0 []
  | blank {position : Nat} {tokens : List Token} {c : Char} (reached : Reaches text position tokens)
    (next : text[position]? = some c) (blank : isBlank c = true) :
    Reaches text (position + 1) tokens
  | token {position : Nat} {tokens : List Token} {kind : TokenKind} {lexeme : List Char}
    (reached : Reaches text position tokens)
    (longest : IsLongest (text.drop position) kind lexeme) :
    Reaches text (position + lexeme.length) (tokens ++ [⟨kind, lexeme, position⟩])

/-- The scan comes to a character where it cannot go on: the character is no blank, and no token can
start. -/
structure StopsAt (text : List Char) (position : Nat) (c : Char) : Prop where
  reached : ∃ tokens, Reaches text position tokens
  next : text[position]? = some c
  visible : isBlank c = false
  stuck : ∀ kind lexeme, ¬ CanStart (text.drop position) kind lexeme

/-- The tokens cover the text up to a position: each one stands at its place, they follow each other
without common characters, and all characters beside them are blanks. -/
structure Covers (text : List Char) (position : Nat) (tokens : List Token) : Prop where
  stand : ∀ token ∈ tokens, (text.drop token.position).take token.text.length = token.text
  nonempty : ∀ token ∈ tokens, token.text ≠ []
  apart : tokens.Pairwise fun a b => a.position + a.text.length ≤ b.position
  within : ∀ token ∈ tokens, token.position + token.text.length ≤ position
  blanks : ∀ i c, i < position → text[i]? = some c →
    (∃ token ∈ tokens, token.position ≤ i ∧ i < token.position + token.text.length) ∨
    isBlank c = true

variable {text : List Char} {position : Nat} {tokens : List Token} {c : Char}

/-! ### What a scan keeps -/

/-- A token in front of the rest of a text stands at its place. -/
theorem take_of_inFront {lexeme : List Char} (inFront : lexeme <+: text.drop position) :
    (text.drop position).take lexeme.length = lexeme :=
  (List.prefix_iff_eq_take.mp inFront).symm

/-- Before anything is scanned there is nothing to cover. -/
theorem covers_start (text : List Char) : Covers text 0 [] where
  stand := by simp
  nonempty := by simp
  apart := .nil
  within := by simp
  blanks := by simp

/-- The tokens cover a blank more. -/
theorem Covers.blank (covers : Covers text position tokens) (next : text[position]? = some c)
    (blank : isBlank c = true) : Covers text (position + 1) tokens where
  stand := covers.stand
  nonempty := covers.nonempty
  apart := covers.apart
  within := fun token member => Nat.le_succ_of_le (covers.within token member)
  blanks := by
    intro i d before here
    rcases Nat.lt_succ_iff_lt_or_eq.mp before with earlier | rfl
    · -- The character is an earlier one.
      exact covers.blanks i d earlier here
    · -- It is the blank that has just been passed.
      obtain rfl := Option.some.inj (next.symm.trans here)
      exact .inr blank

/-- With another token they cover its characters. -/
theorem Covers.token (covers : Covers text position tokens) {kind : TokenKind} {lexeme : List Char}
    (starts : CanStart (text.drop position) kind lexeme) :
    Covers text (position + lexeme.length) (tokens ++ [⟨kind, lexeme, position⟩]) where
  stand := by
    simp only [List.forall_mem_append, List.forall_mem_singleton]
    -- The new token stands where it begins.
    exact ⟨covers.stand, take_of_inFront starts.inFront⟩
  nonempty := by
    simp only [List.forall_mem_append, List.forall_mem_singleton]
    -- No token is empty.
    exact ⟨covers.nonempty, starts.form.ne_nil⟩
  apart := by
    -- All tokens before it end where it begins, or earlier.
    refine List.pairwise_append.mpr ⟨covers.apart, List.pairwise_singleton _ _, ?_⟩
    simpa using covers.within
  within := by
    simp only [List.forall_mem_append, List.forall_mem_singleton]
    -- The new token ends at the new position.
    exact ⟨fun token member => Nat.le_add_right_of_le (covers.within token member), Nat.le_refl _⟩
  blanks := by
    intro i d before here
    rcases Nat.lt_or_ge i position with earlier | inside
    · -- The character is before the new token.
      rcases covers.blanks i d earlier here with ⟨token, member, spans⟩ | blank
      · exact .inl ⟨token, List.mem_append_left _ member, spans⟩
      · exact .inr blank
    · -- It is within the new token.
      exact .inl ⟨⟨kind, lexeme, position⟩, by simp, inside, before⟩

/-- The tokens of a scan cover what it has passed. -/
theorem Reaches.covers (reached : Reaches text position tokens) : Covers text position tokens := by
  induction reached with
  -- The start covers nothing.
  | start => exact covers_start text
  -- A blank is passed.
  | blank _ next blank ih => exact ih.blank next blank
  -- A token is added.
  | token _ longest ih => exact ih.token longest.starts

/-- A scan stays inside the text. -/
theorem Reaches.le_length (reached : Reaches text position tokens) : position ≤ text.length := by
  induction reached with
  | start => exact Nat.zero_le _
  -- The blank is a character of the text.
  | blank _ next => exact (List.getElem?_eq_some_iff.mp next).1
  | @token position _ _ lexeme _ longest ih =>
    -- The token is a part of the text.
    have bound := longest.starts.inFront.length_le
    rw [List.length_drop] at bound
    omega

/-! ### The tokens of a text -/

/-- Passed characters only move the scan on. -/
theorem scan_passed (position passed : Nat) (cs : List Char) :
    scan position passed cs = scan (position + passed) 0 (cs.drop passed) := by
  induction passed generalizing position cs with
  | zero => rfl
  | succ passed ih =>
    cases cs with
    -- There is nothing left to scan.
    | nil => rfl
    -- Each step passes a character.
    | cons c rest => rw [scan, ih, List.drop_succ_cons, Nat.add_right_comm, Nat.add_assoc]

/-- The characters from a place on begin with the one there. -/
theorem drop_of_next (next : text[position]? = some c) :
    text.drop position = c :: text.drop (position + 1) := by
  obtain ⟨inside, rfl⟩ := List.getElem?_eq_some_iff.mp next
  exact List.drop_eq_getElem_cons inside

/-- A blank is passed. -/
theorem scan_blank (next : text[position]? = some c) (blank : isBlank c = true) :
    scan position 0 (text.drop position) = scan (position + 1) 0 (text.drop (position + 1)) := by
  rw [drop_of_next next, scan, if_pos blank]

/-- The longest token is taken, and the scan goes on behind it. -/
theorem scan_token {kind : TokenKind} {lexeme : List Char}
    (longest : IsLongest (text.drop position) kind lexeme) :
    scan position 0 (text.drop position) =
      (scan (position + lexeme.length) 0 (text.drop (position + lexeme.length))).map
        (⟨kind, lexeme, position⟩ :: ·) := by
  have found := lexeme?_eq_some_iff.mpr longest
  obtain ⟨c, more, rfl⟩ := List.exists_cons_of_ne_nil longest.starts.form.ne_nil
  obtain ⟨rest, same⟩ := longest.starts.inFront
  have visible : isBlank c = false := longest.starts.form.visible
  rw [← List.drop_drop]
  generalize text.drop position = cs at *
  subst same
  rw [List.cons_append] at found ⊢
  simp only [scan, visible, Bool.false_eq_true, if_false, found, List.length_cons,
    Nat.add_one_sub_one, List.drop_succ_cons]
  rw [scan_passed, Nat.add_assoc, Nat.add_comm 1]

/-- Where the scan cannot go on it fails. -/
theorem scan_stuck (next : text[position]? = some c) (visible : isBlank c = false)
    (stuck : ∀ kind lexeme, ¬ CanStart (text.drop position) kind lexeme) :
    scan position 0 (text.drop position) = .error (.unexpectedCharacter c position) := by
  have none := lexeme?_eq_none_iff.mpr stuck
  rw [drop_of_next next] at none ⊢
  simp [scan, visible, none]

/-- What the scan finds from a place on comes behind the tokens before it. -/
theorem Reaches.tokenize_eq (reached : Reaches text position tokens) :
    tokenize text = (scan position 0 (text.drop position)).map (tokens ++ ·) := by
  induction reached with
  | start =>
    -- At the start all is left to scan.
    rw [tokenize, List.drop_zero]
    cases scan 0 0 text <;> rfl
  -- A blank is not part of the result.
  | blank _ next blank ih => rw [ih, scan_blank next blank]
  | token _ longest ih =>
    -- A token is put in front of what follows.
    rw [ih, scan_token longest]
    generalize scan _ 0 _ = later
    cases later <;> simp [Except.map]

/-- A scan that comes to the end of the text has found its tokens. -/
theorem Reaches.tokenize_eq_ok (reached : Reaches text text.length tokens) :
    tokenize text = .ok tokens := by
  rw [reached.tokenize_eq, List.drop_length, scan, Except.map, List.append_nil]

/-- A text with the form of a token is that token and nothing else. -/
theorem HasForm.tokenize_eq {kind : TokenKind} (form : HasForm kind text) :
    tokenize text = .ok [⟨kind, text, 0⟩] := by
  have longest : IsLongest text kind text :=
    { starts := { form, inFront := List.prefix_rfl, ends := by simp }
      longest := fun _ _ other => other.inFront.length_le }
  have unmoved : Reaches text 0 [] := .start
  have reached := unmoved.token longest
  rw [Nat.zero_add] at reached
  exact reached.tokenize_eq_ok

/-- Where the scan stops, the text is refused for the character there. -/
theorem StopsAt.tokenize_eq_error (stops : StopsAt text position c) :
    tokenize text = .error (.unexpectedCharacter c position) := by
  obtain ⟨tokens, reached⟩ := stops.reached
  rw [reached.tokenize_eq, scan_stuck stops.next stops.visible stops.stuck]
  rfl

/-- Every scan comes to the end of the text, or it stops at some character. -/
theorem Reaches.outcome (reached : Reaches text position tokens) :
    (∃ all, Reaches text text.length all) ∨ ∃ stop c, StopsAt text stop c := by
  -- Each step goes on by a character at least, so the induction is on what is left of the text.
  induction left : text.length - position using Nat.strong_induction_on
    generalizing position tokens with
  | _ left ih =>
    have inside := reached.le_length
    cases next : text[position]? with
    | none =>
      -- The text is at its end.
      have ended := List.getElem?_eq_none_iff.mp next
      obtain rfl : position = text.length := by omega
      exact .inl ⟨tokens, reached⟩
    | some c =>
      have open_ : position < text.length := (List.getElem?_eq_some_iff.mp next).1
      cases blank : isBlank c with
      -- A blank is passed.
      | true => exact ih _ (by omega) (reached.blank next blank) rfl
      | false =>
        cases found : lexeme? (text.drop position) with
        -- No token can start here.
        | none => exact .inr ⟨position, c, ⟨tokens, reached⟩, next, blank,
          lexeme?_eq_none_iff.mp found⟩
        | some lexeme =>
          -- The longest token is read, which is not empty.
          have longest := lexeme?_eq_some_iff.mp found
          have some := List.length_pos_iff.mpr longest.starts.form.ne_nil
          exact ih _ (by omega) (reached.token longest) rfl

end Token

/-- A text has tokens exactly if the scan from the left comes to its end. These cover the text: each
stands at its place, they follow each other without common characters, and there are only blanks
beside them. If the scan stops, which it does at one character alone, the text is refused with the
place of that character. -/
theorem tokenize_covers (text : List Char) :
    (∃ tokens, tokenize text = .ok tokens ∧ Token.Reaches text text.length tokens ∧
      Token.Covers text text.length tokens ∧ ∀ position c, ¬ Token.StopsAt text position c) ∨
    ∃ position c, tokenize text = .error (.unexpectedCharacter c position) ∧
      (SyntaxFault.unexpectedCharacter c position).message =
        "Unexpected character " ++ quote (String.singleton c) ++ " at position " ++
          intText position ∧
      Token.StopsAt text position c ∧
      ∀ other d, Token.StopsAt text other d → other = position := by
  have unmoved : Token.Reaches text 0 [] := .start
  rcases unmoved.outcome with ⟨tokens, reached⟩ | ⟨position, c, stops⟩
  · refine .inl ⟨tokens, reached.tokenize_eq_ok, reached, reached.covers,
      fun position c stops => ?_⟩
    cases reached.tokenize_eq_ok.symm.trans stops.tokenize_eq_error
  · refine .inr ⟨position, c, stops.tokenize_eq_error, rfl, stops, fun other d again => ?_⟩
    -- Both would be what the same text is refused for.
    cases again.tokenize_eq_error.symm.trans stops.tokenize_eq_error
    rfl

-- A line break is a blank and has a place, and the plus behind it starts no token.
example : tokenize "r.n >= 1\n+ 2".toList = .error (.unexpectedCharacter '+' 9) := by rfl

end AccessControl
