import AccessControl.Error

/-! Records that operations leave behind, whether they succeed or fail. -/

namespace AccessControl

/-- How much a record matters. -/
inductive Level
  | debug
  | info
  | warning
deriving Repr, DecidableEq

/-- The word for a level. -/
def Level.word : Level → String
  | .debug => "DEBUG"
  | .info => "INFO"
  | .warning => "WARNING"

/-- The part of the program that leaves a record. -/
inductive Source
  | effect
  | roles
  | enforcer
deriving Repr, DecidableEq

/-- The name under which a part leaves its records. -/
def Source.name : Source → String
  | .effect => "gatekeeper.effect"
  | .roles => "gatekeeper.rbac"
  | .enforcer => "gatekeeper.enforcer"

/-- A record. -/
structure Record where
  level : Level
  source : Source
  text : String
deriving Repr, DecidableEq

/-- A result together with the records of the way to it. -/
structure Logged (α : Type) where
  result : Except Error α
  records : List Record

namespace Logged

/-- A value without records. -/
def pure {α : Type} (a : α) : Logged α := ⟨.ok a, []⟩

/-- What follows a result leaves its records after those before it, and nothing follows an error. -/
def bind {α β : Type} (first : Logged α) (next : α → Logged β) : Logged β :=
  match first.result with
  | .ok a => ⟨(next a).result, first.records ++ (next a).records⟩
  | .error e => ⟨.error e, first.records⟩

instance : Monad Logged where
  pure := pure
  bind := bind

/-- An error without records. -/
def fail {α : Type} (e : Error) : Logged α := ⟨.error e, []⟩

/-- A result that leaves no records. -/
def ofExcept {α : Type} (result : Except Error α) : Logged α := ⟨result, []⟩

/-- Records alone. -/
def note (records : List Record) : Logged Unit := ⟨.ok (), records⟩

end Logged

end AccessControl
