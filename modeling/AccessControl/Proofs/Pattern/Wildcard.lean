import AccessControl.Callable.Builtin
import Mathlib.Data.List.Forall2

/-! A search that goes back to the latest star alone finds a way to fill the stars whenever there is
one. -/

namespace AccessControl

/-- The key is the pattern with some characters, or none, in the place of each star, and with every
other character as it is. -/
def FillsStars (pattern key : List Char) : Prop :=
  ∃ parts, List.Forall₂ (fun c part => c = '*' ∨ part = [c]) pattern parts ∧ parts.flatten = key

variable {pattern fixed key rest : List Char} {c : Char}

/-! ### Patterns and what fills them -/

/-- Nothing fills the empty pattern but nothing. -/
@[simp] theorem fillsStars_nil : FillsStars [] key ↔ key = [] := by
  simp [FillsStars, eq_comm]

/-- What fills a pattern begins with what its first character stands for. -/
theorem fillsStars_cons : FillsStars (c :: pattern) key ↔
    ∃ part rest, (c = '*' ∨ part = [c]) ∧ key = part ++ rest ∧ FillsStars pattern rest := by
  constructor
  · -- The first character of the pattern has the first part.
    rintro ⟨_, each, rfl⟩
    cases each with
    | @cons _ part _ parts first later => exact ⟨part, parts.flatten, first, rfl, parts, later, rfl⟩
  · -- Of a part for the first character and those of the others there are all parts.
    rintro ⟨part, _, first, rfl, parts, later, rfl⟩
    exact ⟨part :: parts, .cons first later, rfl⟩

/-- A star stands for whatever is in front of the rest. -/
theorem fillsStars_star : FillsStars ('*' :: pattern) key ↔
    ∃ taken rest, key = taken ++ rest ∧ FillsStars pattern rest := by
  simp [fillsStars_cons]

/-- Characters other than stars are in front as they are. -/
theorem fillsStars_append (plain : '*' ∉ fixed) :
    FillsStars (fixed ++ pattern) key ↔ ∃ rest, key = fixed ++ rest ∧ FillsStars pattern rest := by
  induction fixed generalizing key with
  | nil => simp
  | cons c fixed ih =>
    obtain ⟨other, plain⟩ := not_or.mp (mt List.mem_cons.mpr plain)
    simp only [List.cons_append, fillsStars_cons, Ne.symm other, false_or, ih plain]
    constructor
    · -- The character stands for itself, and the others do.
      rintro ⟨_, _, rfl, rfl, rest, rfl, fills⟩
      exact ⟨rest, rfl, fills⟩
    · -- A text that starts with them all starts with the first one.
      rintro ⟨rest, rfl, fills⟩
      exact ⟨[c], fixed ++ rest, rfl, rfl, rest, rfl, fills⟩

/-- In front of a key there is what agrees with the pattern, and the rest fills the rest. -/
theorem fillsStars_append_append (plain : '*' ∉ fixed) :
    FillsStars (fixed ++ pattern) (fixed ++ key) ↔ FillsStars pattern key := by
  simp [fillsStars_append plain]

/-- Nothing fills a pattern exactly if it has nothing but stars. -/
theorem fillsStars_nil_right : FillsStars pattern [] ↔ ∀ c ∈ pattern, c = '*' := by
  induction pattern with
  | nil => simp
  | cons c pattern ih =>
    rw [fillsStars_cons, List.forall_mem_cons, ← ih]
    constructor
    · -- Nothing can be split into nothing only.
      rintro ⟨part, rest, first, split, fills⟩
      obtain ⟨rfl, rfl⟩ := List.append_eq_nil_iff.mp split.symm
      exact ⟨by simpa using first, fills⟩
    · -- Each star takes nothing.
      rintro ⟨star, fills⟩
      exact ⟨[], [], .inl star, rfl, fills⟩

/-- A star can stand for more characters, whatever is put in front. -/
theorem fillsStars_star_append (fills : FillsStars ('*' :: pattern) rest) (more : List Char) :
    FillsStars ('*' :: pattern) (more ++ rest) := by
  obtain ⟨taken, left, rfl, behind⟩ := fillsStars_star.mp fills
  exact fillsStars_star.mpr ⟨more ++ taken, left, (List.append_assoc ..).symm, behind⟩

/-- A star stands for nothing, or for the first character and what a star stands for behind it. -/
theorem fillsStars_star_cons : FillsStars ('*' :: pattern) (c :: key) ↔
    FillsStars pattern (c :: key) ∨ FillsStars ('*' :: pattern) key := by
  constructor
  · intro fills
    obtain ⟨taken, rest, split, behind⟩ := fillsStars_star.mp fills
    cases taken with
    -- The star takes nothing.
    | nil => exact .inl (split ▸ behind)
    -- The star takes the first character, and perhaps more.
    | cons first taken =>
      obtain ⟨rfl, rfl⟩ := List.cons.inj split
      exact .inr (fillsStars_star.mpr ⟨taken, rest, rfl, behind⟩)
  · rintro (fills | fills)
    · -- The star may take nothing.
      exact fillsStars_star.mpr ⟨[], c :: key, rfl, fills⟩
    · -- The star may take one character more.
      exact fillsStars_star_append fills [c]

/-- Two stars in a row stand for what one stands for. -/
theorem fillsStars_star_star :
    FillsStars ('*' :: '*' :: pattern) key ↔ FillsStars ('*' :: pattern) key := by
  constructor
  · -- What both stars take one of them can take.
    intro fills
    obtain ⟨taken, rest, rfl, behind⟩ := fillsStars_star.mp fills
    exact fillsStars_star_append behind taken
  · -- The first star takes nothing.
    exact fun fills => fillsStars_star.mpr ⟨[], key, rfl, fills⟩

/-- If fixed characters behind a star are found in front of the key, they may as well be taken from
there: whatever follows a later place of them is at the end of what follows the first one. -/
theorem FillsStars.of_fixed (plain : '*' ∉ fixed)
    (fills : FillsStars ('*' :: (fixed ++ pattern)) (fixed ++ key)) :
    FillsStars ('*' :: pattern) key := by
  obtain ⟨taken, behind, split, fillsBehind⟩ := fillsStars_star.mp fills
  obtain ⟨rest, rfl, fillsRest⟩ := (fillsStars_append plain).mp fillsBehind
  have later : rest <:+ fixed ++ key := ⟨taken ++ fixed, by simp [split]⟩
  have shorter : rest.length ≤ key.length := by
    have lengths := congrArg List.length split
    simp only [List.length_append] at lengths
    omega
  obtain ⟨more, rfl⟩ := List.suffix_of_suffix_length_le later (List.suffix_append fixed key) shorter
  exact fillsStars_star.mpr ⟨more, rest, rfl, fillsRest⟩

/-! ### The search -/

/-- So many characters in front of the pattern and of the key are the same, with no star among
them. -/
def AgreeFor (pattern key : List Char) (agreed : Nat) : Prop :=
  ∃ fixed later left, '*' ∉ fixed ∧ fixed.length = agreed ∧ pattern = fixed ++ later ∧
    key = fixed ++ left

/-- Before anything is read the pattern and the key agree. -/
theorem agreeFor_zero (pattern key : List Char) : AgreeFor pattern key 0 :=
  ⟨[], pattern, key, List.not_mem_nil, rfl, rfl, rfl⟩

/-- A character more agrees if both have the same one and it is no star. -/
theorem AgreeFor.next {agreed : Nat} (agree : AgreeFor pattern key agreed)
    (onward : agreed < key.length)
    (other : pattern[agreed]? ≠ some '*') (same : pattern[agreed]? = key[agreed]?) :
    AgreeFor pattern key (agreed + 1) := by
  obtain ⟨fixed, later, left, plain, rfl, rfl, rfl⟩ := agree
  -- The key goes on behind what both begin with.
  obtain ⟨c, left, rfl⟩ : ∃ c rest, left = c :: rest :=
    List.exists_cons_of_length_pos (by simpa using onward)
  -- And the pattern goes on with the same character.
  obtain ⟨later, rfl⟩ : ∃ rest, later = c :: rest := by
    cases later with
    | nil => simp at same
    | cons d later => exact ⟨later, by simpa using same⟩
  have noStar : c ≠ '*' := by simpa using other
  exact ⟨fixed ++ [c], later, left, by simp [plain, noStar.symm], by simp, by simp, by simp⟩

/-- Where pattern and key go on with different characters, and the pattern with no star, the key
does not fill the pattern. -/
theorem AgreeFor.not_fillsStars {agreed : Nat} (agree : AgreeFor pattern key agreed)
    (onward : agreed < key.length) (other : pattern[agreed]? ≠ some '*')
    (different : pattern[agreed]? ≠ key[agreed]?) : ¬ FillsStars pattern key := by
  obtain ⟨fixed, later, left, plain, rfl, rfl, rfl⟩ := agree
  obtain ⟨c, left, rfl⟩ : ∃ c rest, left = c :: rest :=
    List.exists_cons_of_length_pos (by simpa using onward)
  rw [fillsStars_append_append plain]
  cases later with
  -- The pattern ends before the key does.
  | nil => simp
  -- The pattern goes on with another character, which is no star.
  | cons d later =>
    have noStar : d ≠ '*' := by simpa using other
    have unequal : d ≠ c := by simpa using different
    simp [fillsStars_cons, noStar, unequal.symm]

/-- The pattern that a search has to fill, with the latest star in front. -/
def sought (starred : Bool) (pattern : List Char) : List Char :=
  if starred then '*' :: pattern else pattern

/-- What agrees need not be taken back where the pattern goes on with a star, or the key ends. -/
theorem fillsStars_sought (starred : Bool) (plain : '*' ∉ fixed)
    (settled : FillsStars ('*' :: pattern) key ↔ FillsStars pattern key) :
    FillsStars (sought starred (fixed ++ pattern)) (fixed ++ key) ↔ FillsStars pattern key := by
  cases starred with
  -- Without a star in front both texts begin at the same place.
  | false => exact fillsStars_append_append plain
  | true =>
    constructor
    · -- Where the star takes something from the fixed text, the settled rest has a star too.
      exact fun fills => settled.mp (fills.of_fixed plain)
    · -- The star takes nothing.
      exact fun fills => fillsStars_star.mpr
        ⟨[], _, rfl, (fillsStars_append_append plain).mpr fills⟩

/-- A search from where pattern and key agree succeeds exactly if the key fills the pattern with the
latest star in front. -/
theorem wildcardSearch_iff (starred : Bool) (pattern key : List Char) (agreed : Nat)
    (agree : AgreeFor pattern key agreed) :
    wildcardSearch starred pattern key agreed = true ↔ FillsStars (sought starred pattern) key := by
  fun_induction wildcardSearch starred pattern key agreed with
  | case1 starred pattern key agreed onward star ih =>
    -- At the next star the search for what is in front of it is over.
    obtain ⟨fixed, later, left, plain, rfl, rfl, rfl⟩ := agree
    obtain ⟨later, rfl⟩ : ∃ rest, later = '*' :: rest := by
      cases later with
      | nil => simp at star
      | cons d later => exact ⟨later, by simpa using star⟩
    rw [ih (agreeFor_zero ..), fillsStars_sought starred plain fillsStars_star_star]
    simp [sought]
  | case2 starred pattern key agreed onward other same ih => exact ih (agree.next onward other same)
  | case3 pattern key agreed onward other different ih =>
    -- The star has to take the first character, as the pattern cannot start there.
    obtain ⟨c, key, rfl⟩ : ∃ c rest, key = c :: rest := List.exists_cons_of_length_pos (by omega)
    rw [ih (agreeFor_zero ..)]
    simp [sought, fillsStars_star_cons, agree.not_fillsStars onward other different]
  | case4 starred pattern key agreed onward other different unstarred =>
    -- Without a star in front the pattern has to start where the texts differ.
    rw [Bool.not_eq_true] at unstarred
    simp [sought, unstarred, agree.not_fillsStars onward other different]
  | case5 starred pattern key agreed ended =>
    -- At the end of the key only stars may be left.
    obtain ⟨fixed, later, left, plain, rfl, rfl, rfl⟩ := agree
    obtain rfl : left = [] := List.length_eq_zero_iff.mp (by simpa using ended)
    rw [fillsStars_sought starred plain (by simp [fillsStars_nil_right]), fillsStars_nil_right]
    simp

/-- A key fits a pattern with wildcards exactly if it fills its stars. -/
theorem matchesWildcards_iff {key pattern : List Char} :
    matchesWildcards key pattern = true ↔ FillsStars pattern key :=
  wildcardSearch_iff false pattern key 0 (agreeFor_zero pattern key)

/-- The test for wildcards answers for any key and any pattern, and it holds exactly if the key is
the pattern with some text, or none, in the place of each star. -/
theorem Registry.keyMatch5_fillsStars [Runtime] (now : Time.Moment) (key pattern : String) :
    ∃ function holds, (Registry.builtin now).get? "keyMatch5" = some function ∧
      function.call [.text key, .text pattern] = .ok (.flag holds) ∧
      (holds = true ↔ FillsStars pattern.toList key.toList) :=
  ⟨_, _, rfl, rfl, matchesWildcards_iff⟩

-- The first star takes back its first try, at which the rest does not fit.
example : matchesWildcards "/a/b/c/b".toList "/*/b".toList = true := by cbv

end AccessControl
