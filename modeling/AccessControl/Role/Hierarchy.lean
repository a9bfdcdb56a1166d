import AccessControl.Role.Graph
import AccessControl.Role.Closure
import AccessControl.Value.Bound
import AccessControl.Value.Host
import AccessControl.Callable.Basic

/-! Role hierarchies: which names are linked through at most a given number of steps. -/

namespace AccessControl

/-- A test of whether a name stands for a stored name, with the label it was given. -/
structure NameTest where
  label : String
  holds : String → String → Except Error Bool

/-- The test that a function makes. -/
def NameTest.ofCallable (label : String) (function : Callable) : NameTest where
  label := label
  holds name stored := (function.call [.text name, .text stored]).map Value.isTrue

/-- A graph of links with a limit on the steps of a search and tests for names and domains. -/
structure Hierarchy where
  limit : Bound
  graph : RoleGraph
  nameTest : Option NameTest
  domainTest : Option NameTest

namespace Hierarchy

/-- A hierarchy without links; its limit is not negative. -/
def create (limit : Bound) : Except Error Hierarchy :=
  if limit.isBelow 0 then do
    throw (.role (.negativeLimit (← limit.value.written)))
  else .ok ⟨limit, RoleGraph.empty, none, none⟩

/-- A name stands for a stored name: they are equal, or the test holds. -/
def matchesName (hierarchy : Hierarchy) (name stored : String) : Except Error Bool :=
  if name == stored then .ok true
  else
    match hierarchy.nameTest with
    | none => .ok false
    | some test => test.holds name stored

/-- A domain stands for a stored domain. -/
def matchesDomain (hierarchy : Hierarchy) (domain stored : String) : Except Error Bool :=
  if stored == domain then .ok true
  else
    match hierarchy.domainTest with
    | none => .ok false
    | some test => test.holds domain stored

/-- The names for which all of the test holds, in order. -/
def keep {α : Type} (test : α → Except Error Bool) : List α → Except Error (List α)
  | [] => .ok []
  | a :: rest => do
    let isKept ← test a
    let more ← keep test rest
    return if isKept then a :: more else more

/-- The targets of a name within a domain, by every stored name and domain that they stand for. -/
def neighbours (hierarchy : Hierarchy) (index : EdgeIndex) (domain name : String) :
    Except Error (List String) := do
  let domains ← keep (fun entry => hierarchy.matchesDomain domain entry.1) index
  let found ← domains.mapM fun (_, sources) => do
    let matching ← keep (fun entry => hierarchy.matchesName name entry.1) sources
    return matching.flatMap (·.2)
  return Text.distinct found.flatten

/-- The direct groups of a name. -/
def roles (hierarchy : Hierarchy) (name domain : String) : Except Error (List String) :=
  hierarchy.neighbours hierarchy.graph.roles domain name

/-- The direct members of a name. -/
def users (hierarchy : Hierarchy) (name domain : String) : Except Error (List String) :=
  hierarchy.neighbours hierarchy.graph.users domain name

/-- What came of a level of the search: the target, or the names seen and those of the next
level. -/
inductive Sweep
  | found
  | onward (seen next : List String)

/-- The search among the groups of one name. -/
def sweepGroups (hierarchy : Hierarchy) (target : String) :
    List String → List String → List String → Except Error Sweep
  | seen, next, [] => .ok (.onward seen next)
  | seen, next, group :: rest => do
    if ← hierarchy.matchesName target group then return .found
    else if seen.contains group then sweepGroups hierarchy target seen next rest
    else sweepGroups hierarchy target (seen ++ [group]) (next ++ [group]) rest

/-- The search among the groups of all names of a level. -/
def sweepLevel (hierarchy : Hierarchy) (target domain : String) :
    List String → List String → List String → Except Error Sweep
  | seen, next, [] => .ok (.onward seen next)
  | seen, next, name :: rest => do
    match ← sweepGroups hierarchy target seen next (← hierarchy.roles name domain) with
    | .found => return .found
    | .onward seen next => sweepLevel hierarchy target domain seen next rest

/-- The search through at most so many levels. -/
def climb (hierarchy : Hierarchy) (target domain : String) :
    Nat → List String → List String → Except Error Bool
  | 0, _, _ => .ok false
  | steps + 1, seen, level => do
    match ← sweepLevel hierarchy target domain seen [] level with
    | .found => return true
    | .onward seen next =>
      if next.isEmpty then return false else climb hierarchy target domain steps seen next

/-- The first name stands for the second, or is linked to it within the limit. -/
def hasLink (hierarchy : Hierarchy) (name target domain : String) : Except Error Bool := do
  if ← hierarchy.matchesName name target then return true
  else hierarchy.climb target domain (← hierarchy.limit.count) [name] [name]

/-- All groups of a name, the nearest first. -/
def implicitRoles (hierarchy : Hierarchy) (name domain : String) : Except Error (List String) :=
  reachByQueue (fun name => hierarchy.roles name domain) hierarchy.graph.roles.size name

/-- All members of a name, the nearest first. -/
def implicitUsers (hierarchy : Hierarchy) (name domain : String) : Except Error (List String) :=
  reachByQueue (fun name => hierarchy.users name domain) hierarchy.graph.users.size name

/-- Some of the sources stands for the name. -/
def anyMatches (hierarchy : Hierarchy) (name : String) :
    List (String × List String) → Except Error Bool
  | [] => .ok false
  | entry :: rest => do
    if ← hierarchy.matchesName name entry.1 then return true
    else anyMatches hierarchy name rest

/-- The domains in which a name has a group. -/
def domains (hierarchy : Hierarchy) (name : String) : Except Error (List String) := do
  let found ← keep (fun entry => hierarchy.anyMatches name entry.2) hierarchy.graph.roles
  return found.map (·.1)

/-- The domains that have links. -/
def allDomains (hierarchy : Hierarchy) : List String :=
  hierarchy.graph.roles.map (·.1)

/-- A line for each link. -/
def lines (hierarchy : Hierarchy) : List String :=
  hierarchy.graph.links.map fun link =>
    (if link.domain == "" then "" else link.domain ++ "::") ++ link.member ++ " < " ++ link.group

/-- The label of a test, between quotes. -/
def shownLabel (test : Option NameTest) : String :=
  match test with
  | some test => Text.quote test.label
  | none => "None"

/-- A line that tells of the limit, the links and the tests. -/
def description (hierarchy : Hierarchy) : String :=
  "DefaultRoleManager(max_hierarchy_level=" ++ hierarchy.limit.value.asText ++
    ", links=" ++ intText hierarchy.graph.linkCount ++
    ", matching_func=" ++ shownLabel hierarchy.nameTest ++
    ", domain_matching_func=" ++ shownLabel hierarchy.domainTest ++ ")"

end Hierarchy

end AccessControl
