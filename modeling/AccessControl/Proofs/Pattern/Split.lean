import AccessControl.Pattern.Basic
import Mathlib.Data.List.Forall2

/-! A key fits a pattern exactly if it splits into parts that can stand for the pieces of the
pattern. -/

namespace AccessControl

variable {test : Char → Bool} {cs : List Char}

/-! ### Runs -/

/-- Something follows a run exactly if it follows some beginning whose characters pass the test. -/
theorem afterRun_iff {following : List Char → Bool} : afterRun test following cs = true ↔
    ∃ taken rest, cs = taken ++ rest ∧ (∀ c ∈ taken, test c = true) ∧ following rest = true := by
  -- At each character the run ends, or it takes that and goes on.
  induction cs with
  | nil =>
    simp [afterRun]
  | cons c cs ih =>
    simp only [afterRun, Bool.or_eq_true, Bool.and_eq_true, ih]
    constructor
    · -- The run ends now, or it takes the character.
      rintro (now | ⟨passes, taken, rest, rfl, all, later⟩)
      · exact ⟨[], c :: cs, rfl, by simp, now⟩
      · exact ⟨c :: taken, rest, rfl, List.forall_mem_cons.mpr ⟨passes, all⟩, later⟩
    · rintro ⟨taken, rest, split, all, later⟩
      cases taken with
      -- Nothing is taken.
      | nil => exact .inl (by rwa [split])
      -- The character is the first one that is taken.
      | cons d taken =>
        obtain ⟨rfl, rfl⟩ := List.cons.inj split
        rw [List.forall_mem_cons] at all
        exact .inr ⟨all.1, taken, rest, rfl, all.2, later⟩

/-! ### Splits -/

/-- The part of a key can stand in the place of the piece. -/
def Piece.Fits : Piece → List Char → Prop
  | .exact c, part => part = [c]
  | .one set, part => ∃ c, set.holds c = true ∧ part = [c]
  | .run set, part => ∀ c ∈ part, set.holds c = true
  | .param _, part => part ≠ [] ∧ '/' ∉ part

/-- The characters that a parameter takes are no slashes. -/
theorem passes_iff {part : List Char} : (∀ c ∈ part, (c != '/') = true) ↔ '/' ∉ part := by
  simp only [bne_iff_ne, ne_eq]
  exact ⟨fun all member => all '/' member rfl, fun free c member same => free (same ▸ member)⟩

namespace Pattern

/-- The parts make the key, and each of them can stand in the place of its piece. -/
structure Splits (pattern : Pattern) (key : List Char) (parts : List (List Char)) : Prop where
  fits : List.Forall₂ Piece.Fits pattern parts
  joined : parts.flatten = key

variable {piece : Piece} {pattern : Pattern} {key part : List Char} {parts : List (List Char)}

/-- Only nothing splits for a pattern without pieces. -/
theorem splits_nil : Splits [] key parts ↔ parts = [] ∧ key = [] := by
  constructor
  · -- No pieces have no parts.
    rintro ⟨fits, rfl⟩
    cases fits
    exact ⟨rfl, rfl⟩
  · rintro ⟨rfl, rfl⟩
    exact ⟨.nil, rfl⟩

/-- In a split there is a part for the first piece, and the rest splits for the others. -/
theorem splits_cons : Splits (piece :: pattern) key parts ↔ ∃ part others rest,
    parts = part :: others ∧ key = part ++ rest ∧ piece.Fits part ∧ Splits pattern rest others := by
  -- The first piece has the first part.
  constructor
  · rintro ⟨fits, rfl⟩
    cases fits with
    | @cons _ part _ others first later => exact ⟨part, others, _, rfl, rfl, first, later, rfl⟩
  · rintro ⟨part, others, rest, rfl, rfl, first, later, rfl⟩
    exact ⟨.cons first later, rfl⟩

/-- A key fits a pattern exactly if some beginning stands for the first piece and the rest fits the
others. -/
theorem accepts_cons : accepts (piece :: pattern) key = true ↔
    ∃ part rest, key = part ++ rest ∧ piece.Fits part ∧ accepts pattern rest = true := by
  cases piece with
  -- Such a piece is a character.
  | exact c => cases key <;> simp [accepts, Piece.Fits, and_assoc, @eq_comm _ c]
  -- A set takes one character.
  | one set => cases key <;> simp [accepts, Piece.Fits, and_assoc]
  -- A run takes any number of them.
  | run set => simp [accepts, Piece.Fits, afterRun_iff]
  | param name =>
    cases key with
    | nil => simp [accepts, Piece.Fits]
    | cons d key =>
      simp only [accepts, Bool.and_eq_true, afterRun_iff]
      -- A parameter is one character and a run behind it, which together are some text.
      constructor
      · rintro ⟨first, taken, rest, rfl, all, later⟩
        have slashless := passes_iff.mp (List.forall_mem_cons.mpr ⟨first, all⟩)
        exact ⟨d :: taken, rest, rfl, ⟨List.cons_ne_nil d taken, slashless⟩, later⟩
      · rintro ⟨part, rest, split, ⟨some, slashless⟩, later⟩
        obtain ⟨c, taken, rfl⟩ := List.exists_cons_of_ne_nil some
        obtain ⟨rfl, rfl⟩ := List.cons.inj split
        obtain ⟨first, all⟩ := List.forall_mem_cons.mp (passes_iff.mpr slashless)
        exact ⟨first, taken, rest, rfl, all, later⟩

/-- A key fits a pattern exactly if it splits. -/
theorem accepts_iff : pattern.accepts key = true ↔ ∃ parts, pattern.Splits key parts := by
  induction pattern generalizing key with
  | nil => simp [accepts, splits_nil]
  | cons piece pattern ih =>
    simp only [accepts_cons, splits_cons, ih]
    constructor
    · -- The first part is split off, and the others are split later.
      rintro ⟨part, rest, joined, first, others, later⟩
      exact ⟨_, part, others, rest, rfl, joined, first, later⟩
    · rintro ⟨_, part, others, rest, rfl, joined, first, later⟩
      exact ⟨part, rest, joined, first, others, later⟩

/-! ### Paths -/

/-- In a path there are no runs, and behind a parameter only characters come up to the next slash,
so that each segment has one parameter at most. -/
def IsPath : Pattern → Prop
  | [] => True
  | .exact _ :: rest => IsPath rest
  | .param _ :: rest => (∀ piece ∈ rest.takeWhile (· != .exact '/'), ∃ c, piece = .exact c) ∧
    IsPath rest
  | _ :: _ => False

/-- Characters up to a slash take as much of a key in every split. -/
theorem Splits.length_takeWhile (splits : pattern.Splits key parts)
    (plain : ∀ piece ∈ pattern.takeWhile (· != .exact '/'), ∃ c, piece = .exact c) :
    (key.takeWhile (· != '/')).length = (pattern.takeWhile (· != .exact '/')).length := by
  induction pattern generalizing key parts with
  | nil => rw [(splits_nil.mp splits).2]; rfl
  | cons piece pattern ih =>
    obtain ⟨part, others, rest, -, rfl, fits, later⟩ := splits_cons.mp splits
    by_cases slash : piece = .exact '/'
    · -- The slash is the first character that is not passed.
      subst slash
      obtain rfl : part = ['/'] := fits
      simp
    · -- A character in front of the slash has a part of length one.
      have passes : (piece != .exact '/') = true := by simpa using slash
      simp only [List.takeWhile_cons, passes, if_true] at plain ⊢
      obtain ⟨⟨c, rfl⟩, behind⟩ := List.forall_mem_cons.mp plain
      obtain rfl : part = [c] := fits
      have other : c ≠ '/' := fun same => slash (by rw [same])
      simp [other, ih later behind]

/-- A key splits for a path in one way at most. -/
theorem Splits.unique_of_isPath {others : List (List Char)} (path : IsPath pattern)
    (splits : pattern.Splits key parts) (other : pattern.Splits key others) : parts = others := by
  induction pattern generalizing key parts others with
  | nil => rw [(splits_nil.mp splits).1, (splits_nil.mp other).1]
  | cons piece pattern ih =>
    obtain ⟨part, parts, rest, rfl, rfl, fits, later⟩ := splits_cons.mp splits
    obtain ⟨part', others, rest', rfl, joined, fits', later'⟩ := splits_cons.mp other
    cases piece with
    -- A character has itself as its part.
    | exact c =>
      obtain rfl : part = [c] := fits
      obtain rfl : part' = [c] := fits'
      obtain rfl : rest = rest' := List.append_cancel_left joined
      rw [ih path later later']
    | param name =>
      obtain ⟨plain, path⟩ := path
      -- Up to its first slash the key has the parameter's part and the characters behind it.
      have upToSlash {part rest : List Char} (slashless : '/' ∉ part) {parts : List (List Char)}
          (later : Splits pattern rest parts) : ((part ++ rest).takeWhile (· != '/')).length =
            part.length + (pattern.takeWhile (· != .exact '/')).length := by
        rw [List.takeWhile_append_of_pos (passes_iff.mpr slashless), List.length_append,
          later.length_takeWhile plain]
      have lengths := upToSlash fits.2 later
      rw [joined, upToSlash fits'.2 later'] at lengths
      obtain ⟨rfl, rfl⟩ := List.append_inj joined (Nat.add_right_cancel lengths).symm
      rw [ih path later later']
    -- Such a piece is in no path.
    | one set => exact path.elim
    | run set => exact path.elim

end Pattern

end AccessControl
