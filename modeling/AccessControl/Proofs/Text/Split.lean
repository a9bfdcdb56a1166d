import AccessControl.Text.Trim

/-! The pieces of a text between separators are those parts without separators that join to it. -/

namespace AccessControl.Text

variable {separator : Char}

/-- Splitting is that of lists. -/
theorem splitOn_eq_list (separator : Char) (cs : List Char) :
    splitOn separator cs = cs.splitOn separator := by
  induction cs with
  | nil => simp [splitOn]
  | cons c rest ih =>
    have pieces := List.splitOn_ne_nil separator rest
    rw [List.splitOn_cons_eq_if_modifyHead]
    -- There is a first piece, which a separator ends and any other character joins.
    cases split : rest.splitOn separator with
    | nil => exact absurd split pieces
    | cons first more => by_cases same : c = separator <;> simp [splitOn, ih, split, same]

/-- There is a piece at least. -/
theorem splitOn_ne_nil (separator : Char) (cs : List Char) : splitOn separator cs ≠ [] := by
  rw [splitOn_eq_list]
  exact List.splitOn_ne_nil separator cs

/-- No piece has a separator. -/
theorem not_mem_of_mem_splitOn {piece : List Char} (cs : List Char)
    (member : piece ∈ splitOn separator cs) : separator ∉ piece := by
  induction cs generalizing piece with
  | nil =>
    obtain rfl : piece = [] := by simpa [splitOn] using member
    simp
  | cons c rest ih =>
    rw [splitOn_eq_list, List.splitOn_cons_eq_if_modifyHead, ← splitOn_eq_list] at member
    by_cases same : c = separator
    · -- A separator begins a new piece.
      rcases List.mem_cons.mp (by simpa [same] using member) with rfl | later
      · simp
      · exact ih later
    · -- The first piece has got a character more, which is no separator.
      cases split : splitOn separator rest with
      | nil => simp [same, split] at member
      | cons first more =>
        rw [split] at ih
        rcases List.mem_cons.mp (by simpa [same, split] using member) with rfl | later
        · -- The first piece.
          exact List.not_mem_cons_of_ne_of_not_mem (Ne.symm same) (ih (List.mem_cons_self ..))
        · -- The pieces behind it.
          exact ih (List.mem_cons_of_mem _ later)

/-- A character of the text is a separator or stands in a piece. -/
theorem mem_splitOn (separator : Char) {cs : List Char} {c : Char} (member : c ∈ cs) :
    c = separator ∨ ∃ piece ∈ splitOn separator cs, c ∈ piece := by
  induction cs with
  | nil => cases member
  | cons d rest ih =>
    rw [splitOn_eq_list, List.splitOn_cons_eq_if_modifyHead, ← splitOn_eq_list]
    rcases List.mem_cons.mp member with rfl | later
    · by_cases same : c = separator
      · -- The character is the separator.
        exact .inl same
      · -- The character joins the first piece, and there is one.
        obtain ⟨first, more, split⟩ := List.exists_cons_of_ne_nil (splitOn_ne_nil separator rest)
        exact .inr (by simp [same, split])
    · -- The character is one of the rest.
      refine (ih later).imp_right ?_
      rintro ⟨piece, among, inside⟩
      by_cases same : d = separator
      · -- The pieces of the rest are among the others.
        exact ⟨piece, by simp [same, among], inside⟩
      · -- The piece may be the first one, which has got a character more.
        cases split : splitOn separator rest with
        | nil => simp [split] at among
        | cons first more =>
          rw [split] at among
          rcases List.mem_cons.mp among with rfl | among
          · -- It was the first one.
            exact ⟨d :: piece, by simp [same], by simp [inside]⟩
          · -- It was another one.
            exact ⟨piece, by simp [same, among], inside⟩

/-- The pieces of a text are given ones exactly if these have no separator and join to the text. -/
theorem splitOn_eq_iff {cs : List Char} {pieces : List (List Char)} (some : pieces ≠ []) :
    splitOn separator cs = pieces ↔
      [separator].intercalate pieces = cs ∧ ∀ piece ∈ pieces, separator ∉ piece := by
  constructor
  · -- Joined again, the pieces are the text.
    rintro rfl
    refine ⟨?_, fun piece => not_mem_of_mem_splitOn cs⟩
    rw [splitOn_eq_list]
    exact List.intercalate_splitOn separator
  · -- Without the separator no piece is split again.
    rintro ⟨rfl, apart⟩
    rw [splitOn_eq_list]
    exact List.splitOn_intercalate separator apart some

/-- The pieces of two texts with a separator between them are those of both. -/
theorem splitOn_append_cons (front back : List Char) :
    splitOn separator (front ++ separator :: back) = splitOn separator front ++
      splitOn separator back := by
  simp only [splitOn_eq_list, List.splitOn_append_cons_self]

/-- A text is its only piece exactly if it has no separator. -/
theorem splitOn_eq_singleton_iff {cs piece : List Char} :
    splitOn separator cs = [piece] ↔ cs = piece ∧ separator ∉ piece := by
  rw [splitOn_eq_iff (List.cons_ne_nil piece []), List.intercalate_singleton,
    List.forall_mem_singleton, @eq_comm _ piece]

/-- A first piece with others behind it ends at a separator, behind which the others are split. -/
theorem splitOn_eq_cons_iff {cs piece : List Char} {others : List (List Char)}
    (more : others ≠ []) : splitOn separator cs = piece :: others ↔
      ∃ rest, cs = piece ++ separator :: rest ∧ separator ∉ piece ∧
        splitOn separator rest = others := by
  rw [splitOn_eq_iff (List.cons_ne_nil piece others), List.intercalate_cons_of_ne_nil more,
    List.append_assoc, List.singleton_append, List.forall_mem_cons]
  constructor
  · -- The other pieces are those of the rest.
    rintro ⟨rfl, apart, each⟩
    exact ⟨_, rfl, apart, (splitOn_eq_iff more).mpr ⟨rfl, each⟩⟩
  · -- In front of the pieces of the rest there is one more.
    rintro ⟨rest, rfl, apart, split⟩
    obtain ⟨rfl, each⟩ := (splitOn_eq_iff more).mp split
    exact ⟨rfl, apart, each⟩

/-- A text splits at its first separator. -/
theorem splitAtFirst_append {before after : List Char} (apart : separator ∉ before) :
    splitAtFirst separator (before ++ separator :: after) = some (before, after) := by
  induction before with
  | nil => simp [splitAtFirst]
  | cons c rest ih =>
    rw [List.mem_cons, not_or] at apart
    simp [splitAtFirst, Ne.symm apart.1, ih apart.2]

/-- A text without a separator does not split. -/
theorem splitAtFirst_eq_none {cs : List Char} (apart : separator ∉ cs) :
    splitAtFirst separator cs = none := by
  induction cs with
  | nil => rfl
  | cons c rest ih =>
    rw [List.mem_cons, not_or] at apart
    simp [splitAtFirst, Ne.symm apart.1, ih apart.2]

/-- What stands before the first separator has none, and what stands behind it completes the
text. -/
theorem of_splitAtFirst_eq_some {cs : List Char} : ∀ {before after : List Char},
    splitAtFirst separator cs = some (before, after) →
      cs = before ++ separator :: after ∧ separator ∉ before := by
  induction cs with
  | nil => exact nofun
  | cons c rest ih =>
    intro before after split
    by_cases same : c = separator
    · -- The separator is the first character.
      obtain ⟨rfl, rfl⟩ : [] = before ∧ rest = after := by simpa [splitAtFirst, same] using split
      simp [same]
    · -- It comes later.
      obtain ⟨first, later, rfl⟩ : ∃ first, splitAtFirst separator rest = some (first, after) ∧
          c :: first = before := by simpa [splitAtFirst, same] using split
      obtain ⟨rfl, apart⟩ := ih later
      exact ⟨rfl, List.not_mem_cons_of_ne_of_not_mem (Ne.symm same) apart⟩

end AccessControl.Text
