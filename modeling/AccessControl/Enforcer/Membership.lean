import AccessControl.Enforcer.Decide
import AccessControl.Enforcer.Management

/-! Users, roles, permissions and domains, by the rules of `p` and `g` and the links of `g`. -/

namespace AccessControl

/-- The fields of a grouping rule, to which a domain belongs only if it counts as true. -/
def withDomain (fields : List Value) (domain : Value) : List Value :=
  if domain.isTrue then fields ++ [domain] else fields

namespace Enforcer

/-- The position of the subject in the rules of a type. -/
def subjectPosition (enforcer : Enforcer) (ptype : String) : Nat :=
  enforcer.position ptype "sub" 0

/-- The position of the domain in the rules of a type. -/
def domainPosition (enforcer : Enforcer) (ptype : String) : Nat :=
  enforcer.position ptype "dom" 1

/-! ### Roles -/

/-- The direct roles of a user. -/
def rolesOf (enforcer : Enforcer) (user domain : String) : Except Error (List String) := do
  (← enforcer.manager "g").roles user domain

/-- The direct members of a role. -/
def usersOf (enforcer : Enforcer) (role domain : String) : Except Error (List String) := do
  (← enforcer.manager "g").users role domain

/-- The user has the role directly. -/
def hasRole (enforcer : Enforcer) (user role domain : String) : Except Error Bool := do
  return (← enforcer.rolesOf user domain).contains role

/-- All roles of a user, the nearest first. -/
def implicitRolesOf (enforcer : Enforcer) (user domain : String) : Except Error (List String) := do
  (← enforcer.manager "g").implicitRoles user domain

/-- All members of a role, the nearest first. -/
def implicitUsersOf (enforcer : Enforcer) (role domain : String) : Except Error (List String) := do
  (← enforcer.manager "g").implicitUsers role domain

/-- A role for a user. -/
def addRole (enforcer : Enforcer) (user role domain : Value) : Logged (Enforcer × Bool) :=
  enforcer.changeGrouping "g" (.add (ruleOfArguments (withDomain [user, role] domain)))

/-- Several roles for a user. -/
def addRoles (enforcer : Enforcer) (user roles domain : Value) : Logged (Enforcer × Bool) := do
  let rules := (← Logged.ofExcept roles.items).map fun role =>
    .list (withDomain [user, role] domain)
  enforcer.changeGrouping "g" (.addMany (.list rules))

/-- A role less for a user. -/
def deleteRoleOf (enforcer : Enforcer) (user role domain : Value) : Logged (Enforcer × Bool) :=
  enforcer.changeGrouping "g" (.remove (ruleOfArguments (withDomain [user, role] domain)))

/-- No role for a user within a domain, even one without a name. -/
def deleteRolesIn (enforcer : Enforcer) (user domain : Value) : Logged (Enforcer × Bool) :=
  enforcer.changeGrouping "g" (.removeFiltered 0 [user, .text "", domain])

/-- No role for a user, within a domain or, if it counts as false, in any. -/
def deleteRolesOf (enforcer : Enforcer) (user domain : Value) : Logged (Enforcer × Bool) :=
  if domain.isTrue then enforcer.deleteRolesIn user domain
  else enforcer.changeGrouping "g" (.removeFiltered 0 [user])

/-- A change to grouping rules and one to rules, and whether one of them took place. -/
def changeBoth (enforcer : Enforcer) (grouping policy : Change) : Logged (Enforcer × Bool) := do
  let (enforcer, hadLinks) ← enforcer.changeGrouping "g" grouping
  let (enforcer, hadRules) ← enforcer.changePolicy "p" policy
  return (enforcer, hadLinks || hadRules)

/-- A user without roles and permissions. -/
def deleteUser (enforcer : Enforcer) (user : Value) : Logged (Enforcer × Bool) :=
  enforcer.changeBoth (.removeFiltered 0 [user])
    (.removeFiltered (enforcer.subjectPosition "p") [user])

/-- A role without direct members and permissions. -/
def deleteRole (enforcer : Enforcer) (role : Value) : Logged (Enforcer × Bool) :=
  enforcer.changeBoth (.removeFiltered 1 [role])
    (.removeFiltered (enforcer.subjectPosition "p") [role])

/-! ### Permissions -/

/-- A permission that no subject holds. -/
def deletePermission (enforcer : Enforcer) (permission : List Value) : Logged (Enforcer × Bool) :=
  enforcer.changePolicy "p" (.removeFiltered (enforcer.subjectPosition "p" + 1) permission)

/-- A permission for a user. -/
def addPermission (enforcer : Enforcer) (user : Value) (permission : List Value) :
    Logged (Enforcer × Bool) :=
  enforcer.changePolicy "p" (.add (ruleOfArguments (user :: permission)))

/-- The fields of a permission among several. -/
def permissionFields (permission : Value) : Except Error (List Value) :=
  match permission.items with
  | .ok fields => .ok fields
  | .error _ => .error (.argument (.notSpread permission.kindName))

/-- Several permissions for a user. -/
def addPermissions (enforcer : Enforcer) (user : Value) (permissions : List Value) :
    Logged (Enforcer × Bool) := do
  let rows ← Logged.ofExcept (permissions.mapM permissionFields)
  enforcer.changePolicy "p" (.addMany (.list (rows.map fun row => .list (user :: row))))

/-- A permission less for a user. -/
def deletePermissionOf (enforcer : Enforcer) (user : Value) (permission : List Value) :
    Logged (Enforcer × Bool) :=
  enforcer.changePolicy "p" (.remove (ruleOfArguments (user :: permission)))

/-- No permission for a user. -/
def deletePermissionsOf (enforcer : Enforcer) (user : Value) : Logged (Enforcer × Bool) :=
  enforcer.changePolicy "p" (.removeFiltered (enforcer.subjectPosition "p") [user])

/-- The rules of a type whose subject is the user, within a domain unless it has no name. -/
def permissionsOf (enforcer : Enforcer) (ptype user domain : String) :
    Except Error (List Rule) := do
  let rules ← enforcer.store.filter ptype (enforcer.subjectPosition ptype) [.text user]
  if domain == "" then return rules
  else return rules.filter fun rule => rule[enforcer.domainPosition ptype]? == some domain

/-- The user holds the permission directly. -/
def hasPermission (enforcer : Enforcer) (user : Value) (permission : List Value) :
    Except Error Bool :=
  enforcer.holdsRule "p" (ruleOfArguments (user :: permission))

/-- The different rules that a user holds directly or through roles. -/
def implicitPermissionsOf (enforcer : Enforcer) (user domain : String) :
    Except Error (List Rule) := do
  let roles ← enforcer.implicitRolesOf user domain
  let rules ← (user :: roles).mapM fun subject => enforcer.permissionsOf "p" subject domain
  return Text.distinct rules.flatten

/-- Those of the users to whom the permission is granted. -/
def grantedTo (enforcer : Enforcer) (permission : List Value) :
    List String → Logged (List String)
  | [] => .pure []
  | user :: rest => do
    let isGranted ← enforcer.enforce (.text user :: permission)
    let more ← grantedTo enforcer permission rest
    return if isGranted then user :: more else more

/-- The subjects and members that are no groups and to whom the permission is granted. -/
def implicitUsersFor (enforcer : Enforcer) (permission : List Value) : Logged (List String) := do
  let groupings := enforcer.store.rules "g"
  let roles := groupings.filterMap fun rule => rule[1]?
  let subjects ← Logged.ofExcept (enforcer.subjects "p")
  let members := groupings.filterMap fun rule => rule[0]?
  let users := (Text.distinct (subjects ++ members)).filter fun user => !roles.contains user
  enforcer.grantedTo permission users

/-! ### Domains -/

/-- The member or the subject of a rule, which is asked for by its position and has to be there. -/
def subjectAt (position : Nat) (rule : Rule) : Except Error String :=
  match rule[position]? with
  | some subject => .ok subject
  | none => .error (.lookup (.position "list"))

/-- The members and subjects of the rules of a domain. -/
def usersInDomain (enforcer : Enforcer) (domain : String) : Except Error (List String) := do
  let groupings ← enforcer.store.filter "g" 2 [.text domain]
  let members ← groupings.mapM (subjectAt 0)
  let rules := (enforcer.store.rules "p").filter fun rule =>
    rule[enforcer.domainPosition "p"]? == some domain
  let subjects ← rules.mapM (subjectAt (enforcer.subjectPosition "p"))
  return Text.distinct (members ++ subjects)

/-- A domain without rules. -/
def deleteUsersInDomain (enforcer : Enforcer) (domain : Value) : Logged (Enforcer × Bool) :=
  enforcer.changeBoth (.removeFiltered 2 [domain])
    (.removeFiltered (enforcer.domainPosition "p") [domain])

/-- The domains in which a user has a role. -/
def domainsOf (enforcer : Enforcer) (user : String) : Except Error (List String) := do
  (← enforcer.manager "g").domains user

end Enforcer

end AccessControl
