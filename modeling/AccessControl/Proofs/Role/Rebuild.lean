import AccessControl.Proofs.Role.Mirror
import AccessControl.Role.Manager

/-! A rebuild enters its links into tables that it writes in place, in both directions at once. What
it publishes is the graph of adding the links one after the other, with domains, names and edges in
one order. -/

namespace AccessControl

section

variable {α : Type} {key : String} {value fallback : α} {entries : List (String × α)}

/-- The entries with one for the key; if it is new it comes last and has the fallback. -/
def openKey (key : String) (fallback : α) (entries : List (String × α)) : List (String × α) :=
  if (lookupKey key entries).isSome then entries else entries ++ [(key, fallback)]

/-- The entries with a change to the value of the key, made where it stands. -/
def changeKey (key : String) (change : α → α) : List (String × α) → List (String × α)
  | [] => []
  | entry :: rest =>
    if entry.1 == key then (entry.1, change entry.2) :: rest else entry :: changeKey key change rest

/-- To open a key is to insert what is found there, or else the fallback. -/
theorem openKey_eq_insertKey :
    openKey key fallback entries =
      insertKey key ((lookupKey key entries).getD fallback) entries := by
  unfold openKey
  cases found : lookupKey key entries with
  -- What is there is left.
  | some value => exact (insertKey_of_lookupKey found).symm
  -- What is not there is put behind all others.
  | none =>
    have fresh : key ∉ entries.map (·.1) := by
      rw [← lookupKey_isSome, found]
      simp
    exact (insertKey_of_notMem fresh).symm

/-- An inserted value is changed as one inserts what the change makes of it. -/
theorem changeKey_insertKey (change : α → α) :
    changeKey key change (insertKey key value entries) = insertKey key (change value) entries := by
  induction entries with
  | nil => simp [insertKey, changeKey]
  | cons entry rest ih => by_cases same : entry.1 = key <;> simp [insertKey, changeKey, same, ih]

end

namespace EdgeIndex

variable {index : EdgeIndex} {domain source target : String}

/-- The index with a list for the source within the domain, which is empty if there was none. -/
def openSource (domain source : String) (index : EdgeIndex) : EdgeIndex :=
  changeKey domain (openKey source []) (openKey domain [] index)

/-- The index with a target at the end of the list for its source. -/
def appendTarget (domain source target : String) (index : EdgeIndex) : EdgeIndex :=
  changeKey domain (changeKey source (· ++ [target])) index

/-- A source that is opened has the targets that it had. -/
theorem openSource_eq_insertKey :
    index.openSource domain source =
      insertKey domain (insertKey source (index.targets domain source) (index.sources domain))
        index := by
  rw [openSource, openKey_eq_insertKey, changeKey_insertKey, openKey_eq_insertKey]
  rfl

/-- Opening a source changes nothing in its list of targets. -/
theorem targets_openSource :
    (index.openSource domain source).targets domain source = index.targets domain source := by
  rw [openSource_eq_insertKey, targets, sources, lookupKey_insertKey_self, Option.getD_some,
    lookupKey_insertKey_self, Option.getD_some]

/-- A source that has a target is open. -/
theorem openSource_of_mem (listed : target ∈ index.targets domain source) :
    index.openSource domain source = index := by
  -- Without the domain or the source in it the list would be empty.
  obtain ⟨sources, found⟩ : ∃ sources, lookupKey domain index = some sources := by
    cases found : lookupKey domain index with
    | some sources => exact ⟨sources, rfl⟩
    | none => simp [targets, EdgeIndex.sources, found] at listed
  have inside : index.sources domain = sources := by rw [EdgeIndex.sources, found, Option.getD_some]
  obtain ⟨targets, listing⟩ : ∃ targets, lookupKey source sources = some targets := by
    cases listing : lookupKey source sources with
    | some targets => exact ⟨targets, rfl⟩
    | none => simp [EdgeIndex.targets, inside, listing] at listed
  have all : index.targets domain source = targets := by
    rw [EdgeIndex.targets, inside, listing, Option.getD_some]
  rw [openSource_eq_insertKey, all, inside, insertKey_of_lookupKey listing,
    insertKey_of_lookupKey found]

/-- A target behind those of an opened source is an edge more. -/
theorem appendTarget_openSource :
    (index.openSource domain source).appendTarget domain source target =
      index.insert domain source target := by
  rw [openSource_eq_insertKey, appendTarget, changeKey_insertKey, changeKey_insertKey, insert]

end EdgeIndex

namespace RoleGraph

/-- A link is entered in both directions, unless its group is in the list for its member already. -/
def enter (link : Link) : StateM RoleGraph Unit := do
  modify fun graph => { graph with roles := graph.roles.openSource link.domain link.member }
  unless (← get).hasLink link do
    modify fun graph =>
      { graph with roles := graph.roles.appendTarget link.domain link.member link.group }
    modify fun graph => { graph with users := graph.users.openSource link.domain link.group }
    modify fun graph =>
      { graph with users := graph.users.appendTarget link.domain link.group link.member }

/-- Links are entered one after the other. -/
def enterEach : List Link → StateM RoleGraph Unit
  | [] => return
  | link :: rest => do
    enter link
    enterEach rest

/-- The graph that is built by entering links into tables that are empty at first. -/
def build (links : List Link) : RoleGraph :=
  ((enterEach links).run empty).2

/-- To enter a link is to add it. -/
theorem enter_run (graph : RoleGraph) (link : Link) :
    (enter link).run graph = ((), graph.addLink link) := by
  have opened : RoleGraph.hasLink
      ⟨graph.roles.openSource link.domain link.member, graph.users⟩ link = graph.hasLink link := by
    rw [hasLink, hasLink, EdgeIndex.targets_openSource]
  simp only [enter, StateT.run_bind, StateT.run_modify, StateT.run_get, pure_bind, opened]
  by_cases known : graph.hasLink link = true
  · -- The group is in the list, so the list was there before.
    have unchanged : graph.roles.openSource link.domain link.member = graph.roles :=
      EdgeIndex.openSource_of_mem (mem_linkSet.mp known)
    simp only [addLink, known, unchanged, if_true]
    rfl
  · -- A new link is put behind those of its source, and that may be a new one.
    simp only [addLink, known, Bool.false_eq_true, if_false, StateT.run_bind,
      StateT.run_modify, pure_bind, EdgeIndex.appendTarget_openSource]
    rfl

/-- To enter links one after the other is to add them one after the other. -/
theorem enterEach_run (links : List Link) (graph : RoleGraph) :
    (enterEach links).run graph = ((), links.foldl addLink graph) := by
  induction links generalizing graph with
  | nil => rfl
  | cons first rest ih =>
    simp only [enterEach, StateT.run_bind, enter_run, List.foldl_cons]
    exact ih _

/-- The graph that is built of links has them in groups by domain and member, each in the order of
their first appearance. -/
theorem build_eq_ofLinks (links : List Link) : build links = ofLinks links := by
  rw [build, enterEach_run, ofLinks_eq_foldl]

end RoleGraph

namespace RoleManager

/-- Links that are added to a hierarchy one after the other are added to its graph. -/
theorem foldl_addLink_hierarchy (h : Hierarchy) (links : List Link) :
    links.foldl (fun manager link => addLink link manager) (hierarchy h) =
      hierarchy { h with graph := links.foldl RoleGraph.addLink h.graph } := by
  induction links generalizing h with
  | nil => rfl
  | cons first rest ih => exact ih _

/-- A hierarchy that is rebuilt publishes the graph that is built of the links, and it comes to the
same as removing all links and adding those given one after the other. The graphs are equal with the
order of their domains, of the names within each and of the edges of each name, in both
directions. -/
theorem rebuilt_eq_added (h : Hierarchy) (links : List Link) :
    (hierarchy h).rebuilt links = hierarchy { h with graph := .build links } ∧
      (hierarchy h).rebuilt links =
        links.foldl (fun manager link => addLink link manager) (hierarchy h).clear := by
  constructor
  · -- All links are built at once.
    rw [rebuilt, RoleGraph.build_eq_ofLinks]
  · -- They are added one after the other.
    rw [rebuilt, clear, foldl_addLink_hierarchy, RoleGraph.ofLinks_eq_foldl]

end RoleManager

-- A link that is repeated counts where it came first, and so do its domain and its member.
example : RoleGraph.build [⟨"bob", "staff", "south"⟩, ⟨"ann", "staff", "north"⟩,
    ⟨"ann", "staff", "south"⟩, ⟨"bob", "staff", "south"⟩, ⟨"bob", "admin", "south"⟩] =
    { roles := [("south", [("bob", ["staff", "admin"]), ("ann", ["staff"])]),
        ("north", [("ann", ["staff"])])]
      users := [("south", [("staff", ["bob", "ann"]), ("admin", ["bob"])]),
        ("north", [("staff", ["ann"])])] } := by decide

end AccessControl
