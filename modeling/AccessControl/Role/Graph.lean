import AccessControl.Value.Basic
import AccessControl.Text.Order

/-! Graphs of links from members to groups within domains, with the reverse direction beside
them. -/

namespace AccessControl

/-- A link from a member to a group within a domain. -/
structure Link where
  member : String
  group : String
  domain : String
deriving Repr, DecidableEq

/-- The targets of each source within each domain, in the order of their arrival. -/
abbrev EdgeIndex := List (String × List (String × List String))

namespace EdgeIndex

/-- The sources of a domain with their targets. -/
def sources (index : EdgeIndex) (domain : String) : List (String × List String) :=
  (lookupKey domain index).getD []

/-- The targets of a source within a domain. -/
def targets (index : EdgeIndex) (domain source : String) : List String :=
  (lookupKey source (index.sources domain)).getD []

/-- The index with one more target at the end. -/
def insert (index : EdgeIndex) (domain source target : String) : EdgeIndex :=
  insertKey domain
    (insertKey source (index.targets domain source ++ [target]) (index.sources domain)) index

/-- Entries without those of a key. -/
def eraseKey {α : Type} (key : String) (entries : List (String × α)) : List (String × α) :=
  entries.filter fun entry => entry.1 != key

/-- The index without a target; a source without targets and a domain without sources vanish. -/
def erase (index : EdgeIndex) (domain source target : String) : EdgeIndex :=
  let remaining := (index.targets domain source).filter (· != target)
  let sources :=
    if remaining.isEmpty then eraseKey source (index.sources domain)
    else insertKey source remaining (index.sources domain)
  if sources.isEmpty then eraseKey domain index else insertKey domain sources index

/-- The number of targets of all sources. -/
def size (index : EdgeIndex) : Nat :=
  (index.flatMap fun (_, sources) => sources.flatMap fun (_, targets) => targets).length

/-- The index of distinct edges, each a domain, a source and a target. -/
def ofEdges (edges : List (String × String × String)) : EdgeIndex :=
  (Text.distinct (edges.map (·.1))).map fun domain =>
    let inside := (edges.filter fun edge => edge.1 == domain).map (·.2)
    (domain, (Text.distinct (inside.map (·.1))).map fun source =>
      (source, (inside.filter fun edge => edge.1 == source).map (·.2)))

end EdgeIndex

/-- A graph of links by member and by group. -/
structure RoleGraph where
  roles : EdgeIndex
  users : EdgeIndex
deriving Repr, DecidableEq

namespace RoleGraph

/-- The graph without links. -/
def empty : RoleGraph := ⟨[], []⟩

/-- The graph has the link. -/
def hasLink (graph : RoleGraph) (link : Link) : Bool :=
  (graph.roles.targets link.domain link.member).contains link.group

/-- The graph with a link; a link that is there already changes nothing. -/
def addLink (graph : RoleGraph) (link : Link) : RoleGraph :=
  if graph.hasLink link then graph
  else
    { roles := graph.roles.insert link.domain link.member link.group
      users := graph.users.insert link.domain link.group link.member }

/-- The graph without a link. -/
def removeLink (graph : RoleGraph) (link : Link) : RoleGraph :=
  if graph.hasLink link then
    { roles := graph.roles.erase link.domain link.member link.group
      users := graph.users.erase link.domain link.group link.member }
  else graph

/-- The graph of links, each of which counts once and in the order of its first appearance. -/
def ofLinks (links : List Link) : RoleGraph :=
  let distinct := Text.distinct links
  { roles := .ofEdges (distinct.map fun link => (link.domain, link.member, link.group))
    users := .ofEdges (distinct.map fun link => (link.domain, link.group, link.member)) }

/-- The links by domain and member. -/
def links (graph : RoleGraph) : List Link :=
  graph.roles.flatMap fun (domain, members) =>
    members.flatMap fun (member, groups) => groups.map fun group => ⟨member, group, domain⟩

/-- The number of links. -/
def linkCount (graph : RoleGraph) : Nat :=
  graph.roles.size

end RoleGraph

end AccessControl
