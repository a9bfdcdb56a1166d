import AccessControl.Value.Parts
import AccessControl.Text.Trim
import AccessControl.Text.Order

/-! Models: the schemas of requests and rules, the grouping types, the effects and the matchers. -/

namespace AccessControl

/-- A grouping type with the number of its fields, two at least. -/
structure RoleDefinition where
  name : String
  arity : Nat
  isWide : 2 ≤ arity
deriving Repr, DecidableEq

namespace RoleDefinition

/-- The grouping type of a name with so many fields. -/
def create (name : String) (arity : Int) : Except Error RoleDefinition :=
  if wide : 2 ≤ arity.toNat then .ok ⟨name, arity.toNat, wide⟩
  else .error (.validation (.narrowRole name))

/-- The last field of three or more is a domain. -/
def hasDomain (role : RoleDefinition) : Bool :=
  3 ≤ role.arity

/-- The position of the domain. -/
def domainIndex? (role : RoleDefinition) : Option Nat :=
  if role.hasDomain then some (role.arity - 1) else none

end RoleDefinition

/-- A model; the names of each of its sections are all different. -/
structure Model where
  requests : List (String × List String)
  policies : List (String × List String)
  roles : List (String × RoleDefinition)
  effects : List (String × String)
  matchers : List (String × String)
deriving Repr, DecidableEq

namespace Model

/-- The effect of a model that declares none. -/
def defaultEffect : String := "some(where (p.eft == allow))"

/-- The first matcher. -/
def matcher (model : Model) : String :=
  (lookupKey "m" model.matchers).getD ""

/-- The first effect. -/
def effect (model : Model) : String :=
  (lookupKey "e" model.effects).getD defaultEffect

/-- The fields of a request schema. -/
def requestFields (model : Model) (rtype : String) : List String :=
  (lookupKey rtype model.requests).getD []

/-- The fields of a rule schema. -/
def policyFields (model : Model) (ptype : String) : List String :=
  (lookupKey ptype model.policies).getD []

/-- The position of a field in a rule schema. -/
def fieldIndex? (model : Model) (ptype name : String) : Option Nat :=
  (model.policyFields ptype).findIdx? (· == name)

/-- The type is one of groupings. -/
def isGroupingType (model : Model) (ptype : String) : Bool :=
  (lookupKey ptype model.roles).isSome

/-- The type is one of rules. -/
def isPolicyType (model : Model) (ptype : String) : Bool :=
  (lookupKey ptype model.policies).isSome

/-- The first section whose schema is empty or repeats a field. -/
def schemaFault? : List (String × List String) → Option ValidationFault
  | [] => none
  | (name, fields) :: rest =>
    if fields.isEmpty then some (.noFields name)
    else if (Text.distinct fields).length != fields.length then some (.repeatedField name)
    else schemaFault? rest

/-- What the model lacks. -/
def fault? (model : Model) : Option ValidationFault :=
  if (lookupKey "r" model.requests).isNone then some .noRequest
  else if (lookupKey "p" model.policies).isNone then some .noPolicy
  else if (lookupKey "e" model.effects).isNone then some .noEffect
  else if model.matcher == "" then some .noMatcher
  -- A rule schema stands in the place of a request schema of the same name.
  else schemaFault? (collectKeys (model.requests ++ model.policies))

/-- The model is complete. -/
def validate (model : Model) : Except Error Unit :=
  match model.fault? with
  | none => .ok ()
  | some fault => .error (.validation fault)

end Model

end AccessControl
