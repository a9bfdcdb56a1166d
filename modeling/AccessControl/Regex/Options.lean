import AccessControl.Regex.Node

/-! The options of regular expressions, for the whole of one or for one of its groups. -/

namespace AccessControl.Regex

/-- The options that a pattern can set for itself or for one of its groups. -/
structure Options where
  ignoreCase : Bool
  multiline : Bool
  dotAll : Bool
  spaced : Bool
  ascii : Bool
  unicode : Bool
  template : Bool
deriving Repr, DecidableEq, Inhabited

/-- No option is set. -/
def Options.none : Options := ⟨false, false, false, false, false, false, false⟩

/-- The option that a letter stands for. -/
def Options.ofLetter? (c : Char) : Option Options :=
  match c with
  | 'i' => some { Options.none with ignoreCase := true }
  | 'm' => some { Options.none with multiline := true }
  | 's' => some { Options.none with dotAll := true }
  | 'x' => some { Options.none with spaced := true }
  | 'a' => some { Options.none with ascii := true }
  | 'u' => some { Options.none with unicode := true }
  | 't' => some { Options.none with template := true }
  | _ => Option.none

/-- Options of either. -/
def Options.union (a b : Options) : Options :=
  ⟨a.ignoreCase || b.ignoreCase, a.multiline || b.multiline, a.dotAll || b.dotAll,
    a.spaced || b.spaced, a.ascii || b.ascii, a.unicode || b.unicode, a.template || b.template⟩

/-- Options of the first without those of the second. -/
def Options.without (a b : Options) : Options :=
  ⟨a.ignoreCase && !b.ignoreCase, a.multiline && !b.multiline, a.dotAll && !b.dotAll,
    a.spaced && !b.spaced, a.ascii && !b.ascii, a.unicode && !b.unicode,
    a.template && !b.template⟩

/-- An option that chooses the characters that letters, digits and blanks range over. -/
def Options.choosesAlphabet (o : Options) : Bool :=
  o.ascii || o.unicode

/-- The options inside a group that sets some and unsets others. -/
def Options.inside (outer added removed : Options) : Options :=
  let kept :=
    if added.choosesAlphabet then { outer with ascii := false, unicode := false } else outer
  (kept.union added).without removed

/-- How sets compare characters under the options. -/
def Options.casing (o : Options) : Casing := ⟨o.ignoreCase, o.ascii⟩

end AccessControl.Regex
