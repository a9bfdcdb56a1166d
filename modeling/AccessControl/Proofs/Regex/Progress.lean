import AccessControl.Proofs.Journal
import AccessControl.Regex.Repetition
import Mathlib.Control.Monad.Basic

/-! What every step of the reader of regular expressions keeps, and the only faults that it
finds. -/

namespace AccessControl.Regex

/-! ### Numbers that are too large -/

/-- The digits write a number that no bound of a repetition can be. -/
def IsExcessive (digits : List Char) : Prop :=
  (∀ c ∈ digits, Text.isAsciiDigit c = true) ∧
    (Decimal.digitLimit < digits.length ∨
      repetitionLimit ≤ Decimal.ofDigits (digits.map Text.asciiDigitValue))

/-- The pattern has braces and, one after the other, the digits of such a number. -/
structure HasExcess (pattern : List Char) : Prop where
  opens : '{' ∈ pattern
  closes : '}' ∈ pattern
  excess : ∃ digits, digits <:+: pattern ∧ IsExcessive digits

/-- The pattern has the two characters that options stand behind. -/
structure AsksOptions (pattern : List Char) : Prop where
  opens : '(' ∈ pattern
  asks : '?' ∈ pattern

/-- The pattern can have options, and has the letters of the two that exclude each other. -/
structure HasAlphabets (pattern : List Char) : Prop extends AsksOptions pattern where
  ascii : 'a' ∈ pattern
  unicode : 'u' ∈ pattern

/-- A fault in reading the pattern is its form, such a number in it, or what two options in it can
ask for. -/
def Fault.Fits (pattern : List Char) : Fault → Prop
  | .malformed => True
  | .repetitionTooLarge | .tooManyDigits _ => HasExcess pattern
  | .bothAlphabets => HasAlphabets pattern

/-! ### Steps -/

/-- Options that choose an alphabet come from their letters in the pattern, and from what they stand
behind. -/
structure Options.From (pattern : List Char) (options : Options) : Prop where
  ascii : options.ascii = true → AsksOptions pattern ∧ 'a' ∈ pattern
  unicode : options.unicode = true → AsksOptions pattern ∧ 'u' ∈ pattern

/-- What is left to read are the marks of an end of the pattern, and the options come from it. -/
structure Progress.Within (pattern : List Char) (progress : Progress) : Prop where
  rest : ∃ tail, tail <:+ pattern ∧ progress.rest = marks tail
  options : progress.options.From pattern

/-- Reading from within the pattern stays within it and gives what has a property, or finds a fault
that fits the pattern. -/
structure Keeps (pattern : List Char) {α : Type} (action : Read α) (gives : α → Prop) : Prop where
  within {progress after : Progress} {a : α} (start : progress.Within pattern)
    (done : action.run progress = .ok (a, after)) : gives a ∧ after.Within pattern
  fault {progress : Progress} {fault : Fault} (start : progress.Within pattern)
    (failed : action.run progress = .error fault) : fault.Fits pattern

variable {pattern : List Char} {α β : Type}

namespace Keeps

/-- Nothing is read. -/
theorem pure {a : α} {gives : α → Prop} (given : gives a) : Keeps pattern (pure a) gives where
  within start done := by
    cases done
    exact ⟨given, start⟩
  fault _ failed := nomatch failed

/-- A fault that fits the pattern is found. -/
theorem throw {fault : Fault} {gives : α → Prop} (fits : fault.Fits pattern) :
    Keeps pattern (throw fault) gives where
  within _ done := nomatch done
  fault _ failed := by
    cases failed
    exact fits

/-- The form of the pattern is refused. -/
theorem refuse {gives : α → Prop} : Keeps pattern refuse gives := .throw trivial

/-- One step is made after the other. -/
theorem bind {action : Read α} {next : α → Read β} {gives : α → Prop} {hands : β → Prop}
    (first : Keeps pattern action gives) (rest : ∀ a, gives a → Keeps pattern (next a) hands) :
    Keeps pattern (action >>= next) hands where
  within start done := by
    rw [StateT.run_bind] at done
    obtain ⟨⟨a, between⟩, made, done⟩ := bind_eq_ok.mp done
    obtain ⟨given, inside⟩ := first.within start made
    exact (rest a given).within inside done
  fault start failed := by
    rw [StateT.run_bind] at failed
    rcases bind_eq_error.mp failed with failed | ⟨⟨a, between⟩, made, failed⟩
    · -- The first step finds the fault.
      exact first.fault start failed
    · -- The second one does, from where the first one has come to.
      obtain ⟨given, inside⟩ := first.within start made
      exact (rest a given).fault inside failed

/-- What is given without reading is passed on. -/
theorem pure_bind {a : α} {next : α → Read β} {hands : β → Prop}
    (rest : Keeps pattern (next a) hands) : Keeps pattern (Pure.pure a >>= next) hands :=
  @bind pattern α β _ next (· = a) hands (.pure rfl) fun _ same => same ▸ rest

/-- Nothing follows once the form of the pattern is refused. -/
theorem refuse_bind {next : α → Read β} {hands : β → Prop} :
    Keeps pattern (Regex.refuse >>= next) hands :=
  .bind (@refuse pattern α fun _ => False) nofun

/-- Reading goes on unless the form of the pattern is refused. -/
theorem guard {condition : Prop} [Decidable condition] {next : Unit → Read β} {hands : β → Prop}
    (rest : Keeps pattern (next ()) hands) :
    Keeps pattern (if condition then Regex.refuse >>= next else next ()) hands := by
  split
  · -- The form is refused, and nothing is read after that.
    exact .refuse_bind
  · exact rest

/-- What has been read so far is looked at. -/
theorem get : Keeps pattern (get : Read Progress) fun progress => progress.Within pattern where
  within start done := by
    cases done
    exact ⟨start, start⟩
  fault _ failed := nomatch failed

/-- What has been read so far is put in place of what was. -/
theorem set {progress : Progress} (within : progress.Within pattern) :
    Keeps pattern (set progress) fun _ => True where
  within _ done := by
    cases done
    exact ⟨trivial, within⟩
  fault _ failed := nomatch failed

/-- What has been read so far is changed. -/
theorem modify {change : Progress → Progress}
    (keeps : ∀ progress : Progress, progress.Within pattern → (change progress).Within pattern) :
    Keeps pattern (modify change) fun _ => True where
  within start done := by
    cases done
    exact ⟨trivial, keeps _ start⟩
  fault _ failed := nomatch failed

end Keeps

/-- What follows the first mark are the marks of an end of the pattern, and a plain one stands
before it. -/
theorem marks_tail {mark : Mark} {rest : List Mark} {cs : List Char}
    (made : marks cs = mark :: rest) :
    ∃ tail, tail <:+ cs ∧ rest = marks tail ∧ ∀ c, mark = .plain c → cs = c :: tail := by
  fun_cases marks cs with
  | case1 => simp [marks] at made
  -- A backslash ends the pattern.
  | case2 =>
    cases made
    exact ⟨[], List.nil_suffix, rfl, nofun⟩
  -- A backslash takes the character after it with it.
  | case3 c tail =>
    cases made
    exact ⟨tail, ⟨['\\', c], rfl⟩, rfl, nofun⟩
  -- Any other character is a mark of its own.
  | case4 c tail other =>
    have made : .plain c :: marks tail = mark :: rest := by simpa [marks, other] using made
    cases made
    refine ⟨tail, List.suffix_cons c tail, rfl, fun d plain => ?_⟩
    cases plain
    rfl

/-- Going on fails only before a backslash that nothing follows. -/
theorem goOn_run (rest : List Mark) (progress : Progress) :
    (goOn rest).run progress = .error .malformed ∨
      (goOn rest).run progress = .ok ((), { progress with rest := rest }) := by
  unfold goOn
  split
  · -- A broken mark comes first, which is refused wherever it is met.
    exact .inl rfl
  · exact .inr rfl

/-- The characters that are taken stand one after the other where reading has come to. -/
theorem takeWhile_run (test : Char → Bool) (fuel : Nat) :
    ∀ {progress : Progress} {tail : List Char}, progress.rest = marks tail →
      (takeWhile test fuel).run progress = .error .malformed ∨
      ∃ taken more, tail = taken ++ more ∧ (∀ c ∈ taken, test c = true) ∧
        (takeWhile test fuel).run progress = .ok (taken, { progress with rest := marks more }) := by
  -- The induction is on the fuel, for all that is left to read.
  induction fuel with
  | zero =>
    intro progress tail rest
    -- Without fuel nothing is taken.
    exact .inr ⟨[], tail, rfl, nofun, by rw [← rest]; rfl⟩
  | succ fuel ih =>
    intro progress tail rest
    have stops (stopped : (takeWhile test (fuel + 1)).run progress = .ok ([], progress)) :
        ∃ taken more, tail = taken ++ more ∧ (∀ c ∈ taken, test c = true) ∧
          (takeWhile test (fuel + 1)).run progress =
          .ok (taken, { progress with rest := marks more }) :=
      ⟨[], tail, rfl, nofun, by rw [stopped, ← rest]⟩
    cases left : marks tail with
    -- At the end, before an escaped character and before a broken mark nothing is taken.
    | nil => exact .inr (stops (by simp [takeWhile, peek, rest, left]))
    | cons mark more =>
      obtain ⟨after, _, rfl, first⟩ := marks_tail left
      cases mark with
      | escaped c => exact .inr (stops (by simp [takeWhile, peek, rest, left]))
      | broken => exact .inr (stops (by simp [takeWhile, peek, rest, left]))
      | plain c =>
        obtain rfl := first c rfl
        by_cases passes : test c = true
        · rcases goOn_run (marks after) progress with broken | moved
          · -- The mark behind the character is broken.
            exact .inl (by simp [takeWhile, peek, rest, left, passes, next, broken])
          -- The character is taken, and more of them after it.
          rcases @ih { progress with rest := marks after } after rfl with
            broken | ⟨taken, more, split, all, run⟩
          · -- It is met further on.
            exact .inl (by simp [takeWhile, peek, rest, left, passes, next, moved, broken])
          · right
            refine ⟨c :: taken, more, by rw [split]; rfl, by simpa [passes] using all, ?_⟩
            simp [takeWhile, peek, rest, left, passes, next, moved, run]
        · -- The character does not pass.
          exact .inr (stops (by simp [takeWhile, peek, rest, left, passes]))

namespace Keeps

/-- The next mark, if it is plain, is a character of the pattern. -/
theorem peek : Keeps pattern peek fun mark => ∀ c, mark = some (.plain c) → c ∈ pattern := by
  refine .bind .get fun progress within => .pure fun c plain => ?_
  obtain ⟨tail, suffix, rest⟩ := within.rest
  cases left : marks tail with
  -- Nothing is left.
  | nil => simp [rest, left] at plain
  | cons mark more =>
    obtain ⟨_, _, _, first⟩ := marks_tail left
    have same : mark = .plain c := by simpa [rest, left] using plain
    exact suffix.mem (by simp [first c same])

/-- Reading goes on from the marks of an end of the pattern. -/
theorem goOn {tail : List Char} (suffix : tail <:+ pattern) :
    Keeps pattern (goOn (marks tail)) fun _ => True := by
  unfold Regex.goOn
  split
  · -- The rest begins with a broken mark.
    exact .refuse_bind
  · exact .modify fun _ within => { within with rest := ⟨tail, suffix, rfl⟩ }

/-- The characters that are taken pass the test and stand one after the other in the pattern. -/
theorem takeWhile (test : Char → Bool) (fuel : Nat) : Keeps pattern (takeWhile test fuel)
    fun taken => taken <:+: pattern ∧ ∀ c ∈ taken, test c = true where
  within start done := by
    obtain ⟨tail, ⟨before, whole⟩, rest⟩ := start.rest
    rcases takeWhile_run test fuel rest with broken | ⟨taken, more, rfl, all, run⟩
    · -- A broken mark does not let the characters be taken.
      cases broken.symm.trans done
    · cases run.symm.trans done
      -- What is taken stands between what was read before and what is left.
      have whole := (List.append_assoc ..).trans whole
      exact ⟨⟨⟨before, more, whole⟩, all⟩, { start with rest := ⟨more, ⟨_, whole⟩, rfl⟩ }⟩
  fault start failed := by
    obtain ⟨tail, _, rest⟩ := start.rest
    rcases takeWhile_run test fuel rest with broken | ⟨taken, more, _, _, run⟩
    · -- The form is all that is refused.
      cases broken.symm.trans failed
      trivial
    · cases run.symm.trans failed

/-- The mark that is passed, if it is plain, is a character of the pattern. -/
theorem next : Keeps pattern next fun mark => ∀ c, mark = some (.plain c) → c ∈ pattern := by
  refine .bind .get fun progress within => ?_
  obtain ⟨tail, suffix, rest⟩ := within.rest
  split
  · -- Nothing is left to pass.
    exact .pure nofun
  · next mark more left =>
    obtain ⟨tail, inner, rfl, first⟩ := marks_tail (rest.symm.trans left)
    refine .bind (.goOn (inner.trans suffix)) fun _ _ => .pure fun c plain => ?_
    exact suffix.mem (by simp [first c (Option.some.inj plain)])

/-- A character that is passed is one of the pattern. -/
theorem accept (c : Char) : Keeps pattern (accept c) fun accepted => accepted = true →
    c ∈ pattern := by
  unfold Regex.accept
  refine .bind .peek fun mark plain => ?_
  split
  · next same => exact .bind .next fun _ _ => .pure fun _ => plain c (by simpa using same)
  · -- Another mark is not passed.
    exact .pure nofun

/-- The character that is demanded is passed. -/
theorem demand (c : Char) : Keeps pattern (demand c) fun _ => True := by
  unfold Regex.demand
  refine .bind (.accept c) fun accepted _ => ?_
  split
  · -- The character is not there.
    exact .refuse
  · exact .pure trivial

/-- The marks of a text are read up to its end. -/
theorem takeUntil (close : Char) (fuel : Nat) (found : List Char) :
    Keeps pattern (takeUntil close fuel found) fun _ => True := by
  induction fuel generalizing found with
  | zero => exact .refuse
  | succ fuel ih =>
    refine .bind .next fun mark _ => ?_
    split
    · -- The pattern ends without the mark that closes.
      exact .refuse
    · split
      · split
        · -- Nothing stands before the mark that closes.
          exact .refuse
        · exact .pure trivial
      · exact ih _
    · exact ih _
    · exact .refuse

/-- Marks are passed up to a character. -/
theorem skipPast (close : Char) (fuel : Nat) :
    Keeps pattern (skipPast close fuel) fun _ => True := by
  induction fuel with
  | zero => exact .pure trivial
  | succ fuel ih =>
    refine .bind .next fun mark _ => ?_
    split
    · -- The pattern ends.
      exact .pure trivial
    · split
      · -- The mark is found.
        exact .pure trivial
      · exact ih

end Keeps

end AccessControl.Regex
