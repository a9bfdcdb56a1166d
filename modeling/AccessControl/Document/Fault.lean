import AccessControl.Value.Basic

/-! Why the text of a document cannot be read, and what else than its own text its value depends
on. -/

namespace AccessControl.Document

/-- Why the text of a document cannot be read. -/
inductive Fault
  | malformed
  | tooManyDigits (digits : Nat)
  | noDigits (base : Nat)
  | noMoment (message : String)
  | other (kind : String) (message : String)
deriving Repr, DecidableEq

/-- The package that reads YAML, where `malformed` stands for all faults that are its own; and the
characters that stand for surrogates without their other half, which texts do not have here. -/
class Readers where
  yaml : List Char → Except Fault Value
  unpaired : Nat → Char

end AccessControl.Document
