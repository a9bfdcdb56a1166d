import AccessControl.Proofs.Enforcer.Classic
import AccessControl.Proofs.Enforcer.Operation
import AccessControl.Proofs.Matcher.Length
import AccessControl.Proofs.Model.Schema

/-! An enforcer takes a complete model exactly if its matchers can be read, and refuses it with the
error of the first one that cannot. -/

namespace AccessControl

open AccessControl.Text

/-- The error, with another text to show for a wrong syntax. -/
def Error.restated (shown : String) : Error → Error
  | .syntaxFault fault _ => .syntaxFault fault shown
  | error => error

/-- A fault of a text stays one with another text to show. -/
theorem Error.IsFaultOf.restated {text shown : String} {error : Error}
    (fault : error.IsFaultOf text shown)
    (other : String) : (error.restated other).IsFaultOf text other := by
  rcases fault with ⟨fault, rfl⟩ | ⟨tokens, tokenized, token, member, long, rfl⟩
  · -- A fault of the syntax stays one.
    exact .inl ⟨fault, rfl⟩
  · -- A number that is too long is so in any text.
    exact .inr ⟨tokens, tokenized, token, member, long, rfl⟩

namespace Model

/-- The model with a text for the matcher of a name. -/
def withMatcher (model : Model) (name text : String) : Model :=
  { model with matchers := insertKey name text model.matchers }

variable {model : Model} {name text : String}

/-- Only without a text for the first matcher it is no longer complete. -/
theorem validate_withMatcher (complete : model.validate = .ok ())
    (some : ¬ (name = "m" ∧ text = "")) : (model.withMatcher name text).validate = .ok () := by
  obtain ⟨first, schemas⟩ := validate_eq_ok_iff.mp complete
  refine validate_eq_ok_iff.mpr ⟨⟨first.request, first.policy, first.effect, ?_⟩, schemas⟩
  rw [matcher, withMatcher, lookupKey_insertKey]
  by_cases same : "m" = name
  · -- The matcher by that name is the new one.
    rw [if_pos same, Option.getD_some]
    exact fun none => some ⟨same.symm, none⟩
  · -- The matcher is the one of before.
    rw [if_neg same]
    exact first.matcher

/-- Without a text for the first matcher it lacks this. -/
theorem validate_withMatcher_empty (complete : model.validate = .ok ()) :
    (model.withMatcher "m" "").validate = .error (.validation .noMatcher) := by
  obtain ⟨first, _⟩ := validate_eq_ok_iff.mp complete
  have request := lookupKey_isNone.not.mpr (not_not.mpr first.request)
  have policy := lookupKey_isNone.not.mpr (not_not.mpr first.policy)
  have effect := lookupKey_isNone.not.mpr (not_not.mpr first.effect)
  simp only [validate, fault?, withMatcher, matcher, lookupKey_insertKey_self,
    Option.getD_some, BEq.rfl, if_true, if_neg request, if_neg policy, if_neg effect]

end Model

namespace Enforcer

/-- A text that cannot be read is shown as the model has it. -/
theorem readMatchers_cons (name text : String) (rest : List (String × String)) :
    readMatchers ((name, text) :: rest) =
      match Matcher.read text with
      | .ok matcher => (readMatchers rest).map fun more => (name, matcher) :: more
      | .error error => .error (error.restated text) := by
  rw [readMatchers]
  split
  · -- The text is read.
    rename_i matcher read
    cases readMatchers rest <;> simp [read, Except.map]
  · -- A fault of the syntax shows the text.
    rename_i fault shown failed
    simp [failed, Error.restated]
  · -- Other errors are passed on.
    rename_i error other failed
    simp only [failed]
    cases error with
    | syntaxFault fault shown => exact absurd rfl (other fault shown)
    | _ => rfl

/-- Texts are read as matchers if each of them is one, and else they fail with a fault of one of
them. -/
theorem readMatchers_cases (texts : List (String × String)) :
    (∃ matchers, readMatchers texts = .ok matchers ∧
      ∀ entry ∈ texts, ∃ matcher, Matcher.read entry.2 = .ok matcher) ∨
      ∃ entry ∈ texts, ∃ error, Matcher.read entry.2 = .error error ∧
        readMatchers texts = .error (error.restated entry.2) := by
  induction texts with
  | nil => exact .inl ⟨[], rfl, by simp⟩
  | cons first rest ih =>
    obtain ⟨name, text⟩ := first
    rw [readMatchers_cons]
    cases read : Matcher.read text with
    -- The first text cannot be read.
    | error error => exact .inr ⟨(name, text), List.mem_cons_self .., error, read, rfl⟩
    | ok matcher =>
      rcases ih with ⟨more, others, each⟩ | ⟨entry, member, error, failed, later⟩
      · -- All texts are read.
        exact .inl ⟨(name, matcher) :: more, by rw [others]; rfl,
          List.forall_mem_cons.mpr ⟨⟨matcher, read⟩, each⟩⟩
      · -- One of the others cannot be read.
        exact .inr ⟨entry, List.mem_cons_of_mem _ member, error, failed, by rw [later]; rfl⟩

variable {enforcer : Enforcer} {model : Model}

/-- A model is refused because it is not complete, or else because of its matchers. -/
theorem setModel_eq_error {error : Error} : (enforcer.setModel model).result = .error error ↔
    model.validate = .error error ∨ model.validate = .ok () ∧
    readMatchers model.matchers = .error error := by
  cases complete : model.validate with
  -- The model is not complete.
  | error fault => simp [setModel, complete]
  | ok =>
    cases read : readMatchers model.matchers with
    -- One of the matchers cannot be read.
    | error fault => simp [setModel, complete, read]
    -- All matchers are read.
    | ok matchers =>
      obtain ⟨made, accepted⟩ := enforcer.setModel_ok complete read
      simp [accepted]

/-- Among readable texts a further one alone decides whether all are read as matchers. -/
theorem readMatchers_insertKey {texts : List (String × String)} {name text : String}
    (readable : ∀ entry ∈ texts, ∃ matcher, Matcher.read entry.2 = .ok matcher) (error : Error) :
    readMatchers (insertKey name text texts) = .error error ↔
      ∃ fault, Matcher.read text = .error fault ∧ fault.restated text = error := by
  rcases readMatchers_cases (insertKey name text texts) with
    ⟨matchers, read, each⟩ | ⟨entry, member, fault, failed, refused⟩
  · -- All texts are read, so the new one is.
    obtain ⟨matcher, own⟩ := each (name, text) (mem_of_lookupKey lookupKey_insertKey_self)
    simp [read, own]
  · -- The text that fails is none of the others.
    rcases mem_insertKey member with rfl | before
    · -- The new text fails.
      simp [failed, refused]
    · -- A text of before can be read.
      obtain ⟨matcher, read⟩ := readable entry before
      cases read.symm.trans failed

/-- A model is complete and all its matchers can be read, and the matcher of a name gives way to any
text. If the text cannot be read as a matcher, its syntax is wrong or it has a whole number with too
many digits. If it is a matcher but for the length of its numbers, it is read, or the first number
that is too long is the error. An enforcer takes the model or is made of it exactly if the text can
be read, and else fails with the same error, which shows the text as it is given; only a model
without any text for the first matcher is not complete. -/
theorem setModel_withMatcher [Host] (complete : model.validate = .ok ())
    (readable : ∀ entry ∈ model.matchers, ∃ matcher, Matcher.read entry.2 = .ok matcher)
    (enforcer : Enforcer) (functions : Registry) (config : Config) (name text : String) :
    (∀ error, Matcher.read text = .error error → error.IsFaultOf text (trim text)) ∧
    (∀ tokens clauses, tokenize (trim text).toList = .ok tokens →
      WritesClauses (tokens.map Token.cut) clauses →
      Matcher.read text =
        match tokens.find? fun token => ¬ token.IsShort with
        | none => .ok ⟨trim text, clauses⟩
        | some token => .error (.number (.tooManyDigits token.digits))) ∧
    ∀ result ∈ [(enforcer.setModel (model.withMatcher name text)).result,
        (create functions config (model.withMatcher name text)).result],
      if name = "m" ∧ text = "" then result = .error (.validation .noMatcher)
      else ∀ error, (result = .error error ↔
          ∃ fault, Matcher.read text = .error fault ∧ fault.restated text = error) ∧
        (result = .error error → error.IsFaultOf text text) := by
  refine ⟨fun error => Matcher.isFaultOf_of_read, fun tokens clauses => Matcher.read_of_cut, ?_⟩
  intro result member
  -- An enforcer is made by one without rules that takes the model.
  obtain ⟨other, rfl⟩ : ∃ other : Enforcer,
      result = (other.setModel (model.withMatcher name text)).result := by
    rcases List.mem_cons.mp member with rfl | member
    · exact ⟨enforcer, rfl⟩
    · exact ⟨_, List.mem_singleton.mp member⟩
  -- An empty matcher of the first name is none.
  split
  · rename_i none
    obtain ⟨rfl, rfl⟩ := none
    exact setModel_eq_error.mpr (.inl (Model.validate_withMatcher_empty complete))
  · -- Any other one is refused only if it cannot be read.
    rename_i some
    intro error
    have exactly : (other.setModel (model.withMatcher name text)).result = .error error ↔
        ∃ fault, Matcher.read text = .error fault ∧ fault.restated text = error := by
      rw [setModel_eq_error, Model.validate_withMatcher complete some, Model.withMatcher,
        readMatchers_insertKey readable]
      simp
    refine ⟨exactly, fun failed => ?_⟩
    obtain ⟨fault, unread, rfl⟩ := exactly.mp failed
    exact (Matcher.isFaultOf_of_read unread).restated text

/-- An enforcer is made of the classic model with a further matcher, but not with an incomplete text
for it. -/
theorem setModel_withMatcher_classic :
    Model.classic.validate = .ok () ∧
    (∀ entry ∈ Model.classic.matchers, ∃ matcher, Matcher.read entry.2 = .ok matcher) ∧
    (∃ made, (create .empty .default (Model.classic.withMatcher "m2" "r.sub == 12")).result =
      .ok made) ∧
    (create .empty .default (Model.classic.withMatcher "m2" " r.sub ==")).result =
      .error (.syntaxFault .unexpectedEnd " r.sub ==") := by
  have readable : ∀ entry ∈ Model.classic.matchers, ∃ matcher, Matcher.read entry.2 = .ok matcher :=
    List.forall_mem_singleton.mpr ⟨_, read_classicExpression⟩
  obtain ⟨start, _⟩ := create_classic .empty .default
  refine ⟨validate_classic, readable, ?_, ?_⟩
  · -- The matcher is read, and the model with it.
    obtain ⟨_, _, results⟩ :=
      setModel_withMatcher validate_classic readable start .empty .default "m2" "r.sub == 12"
    have outcome := results _ (List.mem_cons_of_mem _ (List.mem_singleton_self _))
    rw [if_neg (by decide)] at outcome
    cases made : (create .empty .default (Model.classic.withMatcher "m2" "r.sub == 12")).result with
    | ok other => exact ⟨other, rfl⟩
    | error error =>
      -- An error would be one of reading the text.
      obtain ⟨fault, failed, _⟩ := (outcome error).1.mp made
      have read : Matcher.read "r.sub == 12" = .ok ⟨"r.sub == 12",
        [.equation (.plain (.field ⟨"r", "sub", []⟩)) (.plain (.literal (.whole 12))) false]⟩ := by
        rfl
      cases read.symm.trans failed
  · -- The matcher ends too early, and that is what is shown.
    obtain ⟨_, _, results⟩ :=
      setModel_withMatcher validate_classic readable start .empty .default "m2" " r.sub =="
    have outcome := results _ (List.mem_cons_of_mem _ (List.mem_singleton_self _))
    rw [if_neg (by decide)] at outcome
    exact (outcome _).1.mpr ⟨.syntaxFault .unexpectedEnd "r.sub ==", rfl, rfl⟩

/-- Neither a matcher nor an enforcer is made of an equation with too many digits. -/
theorem create_withDigits [Host] {digits : List Char} (run : Decimal.IsDigits digits)
    (many : Decimal.digitLimit < digits.length) :
    Matcher.read ("r.n==" ++ String.ofList digits) =
      .error (.number (.tooManyDigits digits.length)) ∧
    (create .empty .default
      (Model.classic.withMatcher "m" ("r.n==" ++ String.ofList digits))).result =
      .error (.number (.tooManyDigits digits.length)) := by
  have unread := Matcher.read_equation run many
  -- The text begins with a letter, so it is not empty.
  have some : ¬ ("m" = "m" ∧ "r.n==" ++ String.ofList digits = "") := fun none =>
    absurd (congrArg String.toList none.2) (by simp)
  refine ⟨unread, setModel_eq_error.mpr
    (.inr ⟨Model.validate_withMatcher validate_classic some, ?_⟩)⟩
  refine (readMatchers_insertKey ?_ _).mpr ⟨_, unread, rfl⟩
  exact List.forall_mem_singleton.mpr ⟨_, read_classicExpression⟩

/-- So it is for one digit more than are converted. -/
theorem create_withNines :
    Matcher.read ("r.n==" ++ String.ofList (List.replicate 4301 '9')) =
      .error (.number (.tooManyDigits 4301)) ∧
    (create .empty .default
        (Model.classic.withMatcher "m"
          ("r.n==" ++ String.ofList (List.replicate 4301 '9')))).result =
      .error (.number (.tooManyDigits 4301)) := by
  have run : Decimal.IsDigits (List.replicate 4301 '9') :=
    ⟨List.cons_ne_nil _ _, fun c member => List.eq_of_mem_replicate member ▸ by decide⟩
  have refused := create_withDigits run (by rw [List.length_replicate]; decide)
  rwa [List.length_replicate] at refused

end Enforcer

end AccessControl
