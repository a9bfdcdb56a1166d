import AccessControl.Callable.Builtin
import AccessControl.Proofs.Decision.Containment
import AccessControl.Proofs.Document.Reported
import AccessControl.Proofs.Matcher.Whole
import AccessControl.Proofs.Value.Keys

/-! Decisions about texts end with a verdict or with an error that is reported, if the matcher
compares nothing but texts, flags and numbers that doubles reach. -/

namespace AccessControl

open Double (limit)

/-! ### Values that can be compared -/

namespace Value

/-- The value can be compared with others of its kind: it is no whole number past the doubles, its
text can be written, and it has no parts. -/
structure Compares (value : Value) : Prop where
  within : ∀ i, value = .int i → i.natAbs < limit
  writable : value.isWritable = true
  flat : value.depth = 0

/-- A text can be compared, whatever it writes. -/
theorem compares_text (s : String) : (Value.text s).Compares := ⟨nofun, rfl, rfl⟩

/-- A flag can be compared. -/
theorem compares_flag (b : Bool) : (Value.flag b).Compares := ⟨nofun, rfl, rfl⟩

/-- A real number can be compared. -/
theorem compares_real (x : Double) : (Value.real x).Compares := ⟨nofun, rfl, rfl⟩

/-- A whole number that doubles reach can be compared: it has too few digits not to be written. -/
theorem compares_int {i : Int} (within : i.natAbs < limit) : (Value.int i).Compares where
  within j same := by
    obtain rfl := Value.int.inj same
    exact within
  writable := by
    have bounded : limit < 10 ^ Decimal.digitLimit := by decide +kernel
    have few : Decimal.HasFewDigits i :=
      (Nat.length_toDigits_le_iff (by decide) (by decide)).mpr (Nat.lt_trans within bounded)
    exact decide_eq_true few
  flat := rfl

variable {runtime : Runtime} {lhs rhs : Value} {error : Error}

/-- Values that can be compared are equal or not. -/
theorem Compares.not_equationFails (left : lhs.Compares) (right : rhs.Compares) :
    ¬ lhs.EquationFails rhs error := by
  intro fails
  cases fails with
  -- A number is too large for a double.
  | large side beyond =>
    rcases side with same | same
    · exact absurd (left.within _ same) (Nat.not_lt.mpr beyond)
    · exact absurd (right.within _ same) (Nat.not_lt.mpr beyond)
  | deep deep _ =>
    -- Without parts there are no levels.
    rw [left.flat] at deep
    exact absurd deep (Nat.not_lt_zero _)

/-- Values that can be compared have an order or none. -/
theorem Compares.not_orderFails (left : lhs.Compares) (right : rhs.Compares) :
    ¬ lhs.OrderFails rhs error := by
  intro fails
  cases fails with
  -- A number is too large for a double.
  | large side beyond =>
    rcases side with same | same
    · exact absurd (left.within _ same) (Nat.not_lt.mpr beyond)
    · exact absurd (right.within _ same) (Nat.not_lt.mpr beyond)
  -- A value is written that cannot be.
  | long side => simp [left.writable, right.writable] at side
  -- A value has levels.
  | deep side => simp [left.flat, right.flat] at side

end Value

/-! ### Matchers -/

/-- Whatever text the field has, its attributes lead to values that can be compared, if to any. -/
def FieldRef.Fits (host : Host) (ref : FieldRef) : Prop :=
  ∀ (frame : Frame) (s : String) (reached : List String × Value),
    frame.objects = host.request ∨ (∃ values, frame.objects = host.row values) →
      ref.attributes.foldlM (ref.member frame) ([], .text s) = .ok reached → reached.2.Compares

/-- A field fits, and so does a constant that is no whole number past the doubles. -/
def Argument.Fits (host : Host) : Argument → Prop
  | .field ref => ref.Fits host
  | .literal (.whole i) => i.natAbs < limit
  | .literal _ => True

/-- A side that is no call fits. -/
def Operand.Fits (host : Host) : Operand → Prop
  | .plain argument => argument.Fits host
  | .call _ => True

/-- The sides of an equation or an inequality fit. -/
def Clause.Fits (host : Host) : Clause → Prop
  | .call _ => True
  | .equation lhs rhs _ | .inequality _ lhs rhs => lhs.Fits host ∧ rhs.Fits host

/-- Whatever the matcher compares fits. -/
def Matcher.Fits (host : Host) (matcher : Matcher) : Prop :=
  ∀ clause ∈ matcher.clauses, clause.Fits host

/-- The fields that fit and the results of functions can be compared. -/
structure Environment.Compares (host : Host) (environment : Environment) : Prop where
  fields : ∀ (ref : FieldRef) value, ref.Fits host →
    ref.resolve environment.scope = .ok value → value.Compares
  calls : ∀ name function arguments value, environment.function? name = some function →
    function.call arguments = .ok value → value.Compares

section

variable {host : Host} {environment : Environment} {error : Error}

/-- A side that fits has a value that can be compared, if it has one. -/
theorem Operand.compares {operand : Operand} (compares : environment.Compares host)
    (fits : operand.Fits host) {value : Value}
    (evaluated : operand.evaluate environment = .ok value) :
    value.Compares := by
  cases operand with
  | plain argument =>
    cases argument with
    -- A field compares by what is asked of the fields.
    | field ref => exact compares.fields ref value fits evaluated
    -- A constant is a text or a number that is small enough.
    | literal constant =>
      obtain rfl := Except.ok.inj evaluated
      cases constant with
      | text s => exact Value.compares_text s
      | whole i => exact Value.compares_int fits
      | real x => exact Value.compares_real x
  | call c =>
    simp only [Operand.evaluate, Call.evaluate] at evaluated
    split at evaluated
    · -- The function is missing.
      cases evaluated
    · next function found =>
      obtain ⟨arguments, _, evaluated⟩ := bind_eq_ok.mp evaluated
      split at evaluated
      · -- The function has given the value.
        next value called =>
        obtain rfl := Except.ok.inj evaluated
        exact compares.calls _ _ _ _ found called
      · -- The function has failed.
        cases evaluated

/-- A clause that fits compares nothing that cannot be compared. -/
theorem Clause.not_comparisonFails {clause : Clause} (compares : environment.Compares host)
    (fits : clause.Fits host) : ¬ clause.ComparisonFails environment error := by
  intro fails
  cases fails with
  -- Both sides are there, and their comparison does not fail.
  | equation leftGiven rightGiven fails =>
    exact (Operand.compares compares fits.1 leftGiven).not_equationFails
      (Operand.compares compares fits.2 rightGiven) fails
  -- Nor does that of their order.
  | inequality leftGiven rightGiven fails =>
    exact (Operand.compares compares fits.1 leftGiven).not_orderFails
      (Operand.compares compares fits.2 rightGiven) fails

/-- A matcher that fits compares nothing that cannot be compared. -/
theorem Matcher.not_comparisonFails {matcher : Matcher} (compares : environment.Compares host)
    (fits : matcher.Fits host) : ¬ matcher.ComparisonFails environment error := by
  rintro ⟨before, clause, after, split, _, fails⟩
  have member : clause ∈ matcher.clauses := split ▸ by simp
  exact Clause.not_comparisonFails compares (fits clause member) fails

end

/-! ### Functions -/

/-- The value is a text or a flag. -/
def Value.IsPlain (value : Value) : Prop :=
  (∃ s, value = .text s) ∨ ∃ b, value = .flag b

/-- A text or a flag can be compared. -/
theorem Value.IsPlain.compares {value : Value} (plain : value.IsPlain) : value.Compares := by
  rcases plain with ⟨s, rfl⟩ | ⟨b, rfl⟩
  · -- A text compares.
    exact compares_text s
  · -- A flag compares.
    exact compares_flag b

namespace Callable

/-- The function gives nothing but texts and flags. -/
def GivesPlain (function : Callable) : Prop :=
  ∀ arguments value, function.call arguments = .ok value → value.IsPlain

variable {runtime : Runtime} {title first second third : String} {otherwise : Value}

/-- A function of two texts gives what its body gives, or what is given for other arguments. -/
theorem ofTwoTexts_givesPlain {body : String → String → Except Error Value}
    (other : otherwise.IsPlain) (gives : ∀ a b value, body a b = .ok value → value.IsPlain) :
    (ofTwoTexts title first second otherwise body).GivesPlain := by
  intro arguments value called
  -- There are arguments that are no texts, two texts, or another number of texts.
  simp only [ofTwoTexts] at called
  split at called
  · -- An argument is no text.
    obtain rfl := Except.ok.inj called
    exact other
  · -- Both arguments are texts.
    exact gives _ _ value called
  · -- There are more or fewer of them.
    cases called

/-- A function of three texts gives what its body gives, or what is given for other arguments. -/
theorem ofThreeTexts_givesPlain {body : String → String → String → Except Error Value}
    (other : otherwise.IsPlain) (gives : ∀ a b c value, body a b c = .ok value → value.IsPlain) :
    (ofThreeTexts title first second third otherwise body).GivesPlain := by
  intro arguments value called
  simp only [ofThreeTexts] at called
  split at called
  · -- An argument is no text.
    obtain rfl := Except.ok.inj called
    exact other
  · -- All three arguments are texts.
    exact gives _ _ _ value called
  · -- There are more or fewer of them.
    cases called

/-- What is made a flag is one. -/
theorem isPlain_of_map_flag {asked : Except Error Bool} {value : Value}
    (given : asked.map .flag = .ok value) : value.IsPlain := by
  cases asked with
  -- The answer is a flag.
  | ok b => exact .inr ⟨b, (Except.ok.inj given).symm⟩
  -- There is no answer.
  | error error => cases given

/-- A test gives flags. -/
theorem ofPartialTest_givesPlain (test : List Char → List Char → Except Error Bool) :
    (ofPartialTest title first second test).GivesPlain :=
  ofTwoTexts_givesPlain (.inr ⟨false, rfl⟩) fun _ _ _ => isPlain_of_map_flag

/-- A test that always has an answer gives flags. -/
theorem ofTest_givesPlain (test : List Char → List Char → Bool) :
    (ofTest title first second test).GivesPlain :=
  ofPartialTest_givesPlain fun a b => .ok (test a b)

/-- The part of a key that a star stands for is a text. -/
theorem starPart_givesPlain : starPart.GivesPlain :=
  ofTwoTexts_givesPlain (.inl ⟨"", rfl⟩) fun _ _ _ given => .inl ⟨_, (Except.ok.inj given).symm⟩

/-- The part of a key that a parameter stands for is a text. -/
theorem paramPart_givesPlain (read : List Char → Pattern) : (paramPart title read).GivesPlain :=
  ofThreeTexts_givesPlain (.inl ⟨"", rfl⟩) fun _ _ _ _ given => .inl ⟨_, (Except.ok.inj given).symm⟩

/-- What a manager says of a link is a flag. -/
theorem membership_givesPlain (manager : RoleManager) : (membership (some manager)).GivesPlain := by
  intro arguments value called
  simp only [membership] at called
  split at called
  · split at called
    · -- Without a domain.
      obtain ⟨_, _, called⟩ := bind_eq_ok.mp called
      obtain ⟨_, _, called⟩ := bind_eq_ok.mp called
      obtain ⟨answer, _, called⟩ := bind_eq_ok.mp called
      exact .inr ⟨answer, (Except.ok.inj called).symm⟩
    · -- In a domain.
      obtain ⟨_, _, called⟩ := bind_eq_ok.mp called
      obtain ⟨_, _, called⟩ := bind_eq_ok.mp called
      obtain ⟨_, _, called⟩ := bind_eq_ok.mp called
      obtain ⟨answer, _, called⟩ := bind_eq_ok.mp called
      exact .inr ⟨answer, (Except.ok.inj called).symm⟩
    · -- There are more arguments.
      cases called
  · -- There are fewer.
    cases called

/-- The functions that are always there give texts and flags. -/
theorem builtin_givesPlain (now : Time.Moment) :
    ∀ entry ∈ (Registry.builtin now).entries, entry.2.GivesPlain := by
  simp only [Registry.builtin, List.forall_mem_cons]
  exact ⟨ofTest_givesPlain _, ofTest_givesPlain _, ofTest_givesPlain _, ofTest_givesPlain _,
    ofTest_givesPlain _, starPart_givesPlain, paramPart_givesPlain _, paramPart_givesPlain _,
    ofTest_givesPlain _, ofTest_givesPlain _, ofTest_givesPlain _, ofPartialTest_givesPlain _,
    ofPartialTest_givesPlain _, ofPartialTest_givesPlain _, ofPartialTest_givesPlain _,
    ofTwoTexts_givesPlain (.inr ⟨false, rfl⟩) fun _ _ _ given =>
      .inr ⟨_, (Except.ok.inj given).symm⟩,
    nofun⟩

end Callable

/-! ### Inquiries about texts -/

/-- The frame has nothing but texts. -/
def Frame.IsTextual (frame : Frame) : Prop :=
  ∀ value ∈ frame.values, ∃ s, value = .text s

/-- A frame of texts has a text for each field. -/
theorem FieldRef.base_textual {frame : Frame} (textual : frame.IsTextual) {ref : FieldRef}
    {value : Value} (found : ref.base frame = .ok value) : ∃ s, value = .text s := by
  unfold FieldRef.base at found
  split at found
  · -- The field is declared, and has a value or is empty.
    rename_i index _
    obtain rfl := Except.ok.inj found
    cases listed : frame.values[index]? with
    | none => exact ⟨"", rfl⟩
    | some own => exact textual own (List.mem_of_getElem? listed)
  · split at found
    · -- An effect that is not declared allows.
      exact ⟨"allow", (Except.ok.inj found).symm⟩
    · -- Any other field is missing.
      cases found

namespace Inquiry

variable {inquiry : Inquiry}

/-- A row of an inquiry about texts can be compared, if the functions give texts and flags. -/
theorem environment_compares {texts : List String} (asked : inquiry.request = texts.map .text)
    (gives : ∀ name function, inquiry.function? name = some function → function.GivesPlain)
    (rule : Rule) :
    (inquiry.environment rule).Compares inquiry.host where
  fields ref value fits found := by
    have textual : ∀ entry ∈ (inquiry.environment rule).scope, entry.2.IsTextual ∧
        (entry.2.objects = inquiry.host.request ∨
          ∃ values, entry.2.objects = inquiry.host.row values) := by
      -- The two frames of a row are its request and its rule.
      intro entry member
      rcases mem_insertKey member with rfl | request
      · -- The fields of a rule are texts.
        refine ⟨fun value listed => ?_, .inr ⟨_, rfl⟩⟩
        obtain ⟨s, _, rfl⟩ := List.mem_map.mp listed
        exact ⟨s, rfl⟩
      · -- The fields of the request are those that were given.
        obtain rfl := List.mem_singleton.mp request
        refine ⟨fun value listed => ?_, .inl rfl⟩
        rw [requestFrame, asked] at listed
        obtain ⟨s, _, rfl⟩ := List.mem_map.mp listed
        exact ⟨s, rfl⟩
    unfold FieldRef.resolve at found
    split at found
    · -- No schema of the row has this name.
      cases found
    · -- The base of the field is a text, and the way leads on from there.
      next frame listed =>
      obtain ⟨isTextual, behind⟩ := textual _ (mem_of_lookupKey listed)
      obtain ⟨start, based, found⟩ := bind_eq_ok.mp found
      obtain ⟨s, rfl⟩ := FieldRef.base_textual isTextual based
      obtain ⟨reached, led, found⟩ := bind_eq_ok.mp found
      obtain rfl := Except.ok.inj found
      exact fits frame s reached behind led
  calls name function arguments value found called :=
    (gives name function found arguments value called).compares

end Inquiry

namespace Enforcer

variable {enforcer : Enforcer}

/-- A request that does not fit the model is reported. -/
theorem reports_inquiry (context : Context) (request : List Value) :
    Reports (enforcer.inquiry context "" request) := by
  have matcher : Reports (enforcer.matcherFor context "") := by
    simp only [matcherFor, bne_self_eq_false, Bool.false_eq_true, if_false]
    split
    · -- There is a matcher by that name.
      exact .ok _
    · -- There is none.
      exact .error rfl
  simp only [inquiry]
  split
  · -- The request schema is missing.
    exact .error rfl
  split
  · -- The request has more or fewer values than its schema.
    exact .error rfl
  split
  · -- The policy schema is missing.
    exact .error rfl
  · -- The matcher is chosen.
    exact matcher.bind fun _ _ => .ok _

/-- A request of texts is decided or refused with a report, if the functions give texts and flags
and all that the matcher compares fits. -/
theorem reports_decide {context : Context} (texts : List String)
    (gives : ∀ name function, enforcer.function? name = some function → function.GivesPlain)
    (fits : ∀ matcher, enforcer.matcherFor context "" = .ok matcher → matcher.Fits enforcer.host) :
    Reports (enforcer.decide context "" (texts.map .text)).result := by
  by_cases enabled : enforcer.enabled.isTrue = true
  · cases posed : enforcer.inquiry context "" (texts.map .text) with
    -- The request is refused with a report.
    | error error =>
      have failed : (enforcer.decide context "" (texts.map .text)).result = .error error := by
        simp [decide, enabled, posed]
      rw [failed]
      exact .error (reports_inquiry _ _ error posed)
    -- The request is asked of all rows.
    | ok inquiry =>
      obtain ⟨matcher, chosen, same⟩ := inquiry_made_of posed
      -- Whatever the row, evaluating the matcher for it fails with errors of the matcher alone.
      have contained (rule : Rule) : inquiry.Contains rule := by
        subst same
        exact Inquiry.contains_of_fits fun error =>
          Matcher.not_comparisonFails (Inquiry.environment_compares rfl gives rule)
            (fits matcher chosen)
      obtain ⟨decision, _, decided, _⟩ := Inquiry.decide_answers (enforcer.selector context)
        fun rule (_ : rule ∈ inquiry.rows (enforcer.store.rules context.ptype)) => contained rule
      rw [decide_result enabled posed, decided]
      exact .ok _
  · -- Without an inquiry the request is allowed.
    have decided : (enforcer.decide context "" (texts.map .text)).result =
        .ok (.unasked (texts.map .text)) := by
      simp [decide, enabled]
    rw [decided]
    exact .ok _

end Enforcer

end AccessControl
