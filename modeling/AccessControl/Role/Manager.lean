import AccessControl.Role.Hierarchy
import AccessControl.Journal

/-! Role managers: hierarchies, and plain lists of direct links. -/

namespace AccessControl

/-- A keeper of the links of one grouping type. -/
inductive RoleManager
  | hierarchy (h : Hierarchy)
  | direct (links : List Link)

/-- Links with one more, unless it is there already. -/
def addDirect (links : List Link) (link : Link) : List Link :=
  if links.contains link then links else links ++ [link]

/-- The groups of a member in a list of links. -/
def directRoles (links : List Link) (name domain : String) : List String :=
  (links.filter fun link => link.member == name && link.domain == domain).map (·.group)

/-- The members of a group in a list of links. -/
def directUsers (links : List Link) (name domain : String) : List String :=
  (links.filter fun link => link.group == name && link.domain == domain).map (·.member)

namespace RoleManager

/-- A hierarchy without links and tests. -/
def ofLimit (limit : Bound) : RoleManager :=
  .hierarchy ⟨limit, RoleGraph.empty, none, none⟩

/-- The manager takes tests for names and domains. -/
def takesTests : RoleManager → Bool
  | .hierarchy _ => true
  | .direct _ => false

/-- The links, by domain and member in a hierarchy and in their order in a list. -/
def links : RoleManager → List Link
  | .hierarchy h => h.graph.links
  | .direct links => links

/-- The manager without links. -/
def clear : RoleManager → RoleManager
  | .hierarchy h => .hierarchy { h with graph := RoleGraph.empty }
  | .direct _ => .direct []

/-- The manager with a link. -/
def addLink (link : Link) : RoleManager → RoleManager
  | .hierarchy h => .hierarchy { h with graph := h.graph.addLink link }
  | .direct links => .direct (addDirect links link)

/-- The manager without a link, and whether it had it. -/
def removeLink (link : Link) : RoleManager → RoleManager × Bool
  | .hierarchy h => (.hierarchy { h with graph := h.graph.removeLink link }, h.graph.hasLink link)
  | .direct links => (.direct (links.filter (· != link)), links.contains link)

/-- The manager with the given links only, each of which counts once. -/
def rebuilt (given : List Link) : RoleManager → RoleManager
  | .hierarchy h => .hierarchy { h with graph := RoleGraph.ofLinks given }
  | .direct _ => .direct (given.foldl addDirect [])

/-- The record of the number of links that a hierarchy has now. -/
def countRecord : RoleManager → List Record
  | .hierarchy h => [⟨.debug, .roles,
      "Rebuilt role graph with " ++ intText h.graph.linkCount ++ " links"⟩]
  | .direct _ => []

/-- A name is linked to another one. -/
def hasLink (name target domain : String) : RoleManager → Except Error Bool
  | .hierarchy h => h.hasLink name target domain
  | .direct links => .ok (links.contains ⟨name, target, domain⟩)

/-- The direct groups of a name. -/
def roles (name domain : String) : RoleManager → Except Error (List String)
  | .hierarchy h => h.roles name domain
  | .direct links => .ok (directRoles links name domain)

/-- The direct members of a name. -/
def users (name domain : String) : RoleManager → Except Error (List String)
  | .hierarchy h => h.users name domain
  | .direct links => .ok (directUsers links name domain)

/-- All groups of a name, the nearest first. -/
def implicitRoles (name domain : String) : RoleManager → Except Error (List String)
  | .hierarchy h => h.implicitRoles name domain
  | .direct links =>
    reachByLevels (fun name => .ok (directRoles links name domain)) links.length name

/-- All members of a name, the nearest first. -/
def implicitUsers (name domain : String) : RoleManager → Except Error (List String)
  | .hierarchy h => h.implicitUsers name domain
  | .direct links =>
    reachByLevels (fun name => .ok (directUsers links name domain)) links.length name

/-- The domains in which a name has a group; a list of links does not tell. -/
def domains (name : String) : RoleManager → Except Error (List String)
  | .hierarchy h => h.domains name
  | .direct _ => .ok []

/-- The domains that have links; a list of links does not tell. -/
def allDomains : RoleManager → List String
  | .hierarchy h => h.allDomains
  | .direct _ => []

/-- A line that tells of the manager. -/
def description : RoleManager → String
  | .hierarchy h => h.description
  | .direct links => "SimpleRM(links=" ++ intText links.length ++ ")"

/-- The hierarchy of a manager, which alone has the attribute asked for. -/
def hierarchy? (asked : String) : RoleManager → Except Error Hierarchy
  | .hierarchy h => .ok h
  | .direct _ => .error (.lookup (.attribute "SimpleRM" asked))

/-- The lines of all links, which are also left as records. -/
def printRoles (manager : RoleManager) : Logged (List String) := do
  let h ← Logged.ofExcept (manager.hierarchy? "print_roles")
  Logged.note (h.lines.map fun line => ⟨.info, .roles, line⟩)
  return h.lines

/-- The manager with a test for names, which has to be a function. -/
def setNameTest (label : String) (given : Option Callable) (manager : RoleManager) :
    Except Error RoleManager := do
  let h ← manager.hierarchy? "add_matching_func"
  match given with
  | some function => return .hierarchy { h with nameTest := some (.ofCallable label function) }
  | none => throw (.role (.notFunction label))

/-- The manager with a test for domains, which has to be a function. -/
def setDomainTest (label : String) (given : Option Callable) (manager : RoleManager) :
    Except Error RoleManager := do
  let h ← manager.hierarchy? "add_domain_matching_func"
  match given with
  | some function => return .hierarchy { h with domainTest := some (.ofCallable label function) }
  | none => throw (.role (.notDomainFunction label))

end RoleManager

/-- The function that asks a manager for a link; without a manager it compares its first two
arguments. -/
def Callable.membership [Runtime] (manager : Option RoleManager) : Callable where
  call
    | first :: second :: more =>
      match manager with
      | none =>
        match Runtime.comparing first second with
        | some wording => .error (.tooDeep wording)
        | none => .ok (.flag (first.equal second))
      | some manager =>
        match more with
        | [] => do
          let answer ← manager.hasLink (← first.write) (← second.write) ""
          return .flag answer
        | [domain] => do
          let answer ← manager.hasLink (← first.write) (← second.write) (← domain.write)
          return .flag answer
        | _ => .error (.argument (.tooManyDomains (2 + more.length)))
    | given =>
      .error (Signature.fault ⟨"generate_g_function.<locals>.g", ["name1", "name2"]⟩ given.length)

end AccessControl
