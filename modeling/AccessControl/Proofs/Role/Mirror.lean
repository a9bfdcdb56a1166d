import AccessControl.Proofs.Role.Graph
import AccessControl.Proofs.Role.Index
import Mathlib.Data.Set.Card

/-! However a graph of links is changed, its two directions mirror each other, list each link once
and keep nothing empty. -/

namespace AccessControl

namespace EdgeIndex

variable {index : EdgeIndex} {domain source target : String}

/-- The edges of an index by domain and source, as triples of these and the target. -/
def edges (index : EdgeIndex) : List (String × String × String) :=
  index.flatMap fun (domain, sources) =>
    sources.flatMap fun (source, targets) => targets.map fun target => (domain, source, target)

/-- The size of an index is the number of its edges. -/
theorem size_eq_length_edges (index : EdgeIndex) : index.size = index.edges.length := by
  simp [size, edges, List.length_flatMap]

/-- The edges of an index are what it lists. -/
theorem mem_edges : (domain, source, target) ∈ index.edges ↔ index.Has domain source target := by
  simp only [edges, Has, List.mem_flatMap, List.mem_map, Prod.mk.injEq]
  constructor
  · -- An edge in the list stands in the entry of its source, in the table of its domain.
    rintro ⟨table, listed, entry, within, _, member, rfl, rfl, rfl⟩
    exact ⟨table, listed, rfl, entry, within, rfl, member⟩
  · -- And each target of an entry gives an edge.
    rintro ⟨table, listed, rfl, entry, within, rfl, member⟩
    exact ⟨table, listed, entry, within, target, member, rfl, rfl, rfl⟩

/-- A tidy index finds a target exactly where it lists it. -/
theorem IsTidy.mem_targets (tidy : index.IsTidy) :
    target ∈ index.targets domain source ↔ index.Has domain source target := by
  rw [targets, mem_lookupKey (tidy.sources domain).distinct]
  constructor
  · -- What is found under the domain and the source stands there.
    rintro ⟨entry, found, rfl, member⟩
    obtain ⟨table, listed, rfl, within⟩ := (mem_lookupKey tidy.distinct).mp found
    exact ⟨table, listed, rfl, entry, within, rfl, member⟩
  · -- What stands there is found, since the domains and the sources are distinct.
    rintro ⟨table, listed, rfl, entry, within, rfl, member⟩
    exact ⟨entry, (mem_lookupKey tidy.distinct).mpr ⟨table, listed, rfl, within⟩, rfl, member⟩

/-- A tidy index lists each edge once. -/
theorem IsTidy.nodup_edges (tidy : index.IsTidy) : index.edges.Nodup := by
  refine nodup_flatMap tidy.distinct (fun table listed => ?_) (·.1) (by simp +contextual [eq_comm])
  -- Edges differ if their domains do, or else their sources, or else their targets.
  have inside := (tidy.each table listed).2
  refine nodup_flatMap inside.distinct (fun entry within => ?_) (·.2.1)
    (by simp +contextual [eq_comm])
  exact (inside.each entry within).2.map fun _ _ same => by simpa using same

end EdgeIndex

/-- A change to a graph as a whole. -/
inductive GraphChange
  | add (link : Link)
  | remove (link : Link)
  | rebuild (links : List Link)

/-- What a change does to a set of links. -/
def GraphChange.onSet : GraphChange → Set Link → Set Link
  | .add link, links => insert link links
  | .remove link, links => links \ {link}
  | .rebuild given, _ => {link | link ∈ given}

namespace RoleGraph

/-- The graph after a change. -/
def after (graph : RoleGraph) : GraphChange → RoleGraph
  | .add link => graph.addLink link
  | .remove link => graph.removeLink link
  | .rebuild given => ofLinks given

/-- The graph after changes in a row. -/
def run (graph : RoleGraph) (changes : List GraphChange) : RoleGraph :=
  changes.foldl after graph

/-- The set of the links that a graph has. -/
def linkSet (graph : RoleGraph) : Set Link :=
  {link | graph.hasLink link = true}

/-- Both directions of a graph are tidy, and each has just the edges of the other one turned
around. -/
structure IsMirrored (graph : RoleGraph) : Prop where
  roles : graph.roles.IsTidy
  users : graph.users.IsTidy
  turned : ∀ domain member group,
    group ∈ graph.roles.targets domain member ↔ member ∈ graph.users.targets domain group

variable {graph : RoleGraph} {link : Link}

/-- A link is there exactly if its group is found for its member. -/
theorem mem_linkSet : link ∈ graph.linkSet ↔
    link.group ∈ graph.roles.targets link.domain link.member := by
  simp [linkSet, hasLink]

/-- The graph without links has none. -/
theorem linkSet_empty : empty.linkSet = ∅ := by
  ext link
  simp [mem_linkSet, empty, EdgeIndex.targets, EdgeIndex.sources]

/-- The graph without links is mirrored. -/
theorem isMirrored_empty : empty.IsMirrored where
  roles := isMapping_nil
  users := isMapping_nil
  turned := by simp [empty, EdgeIndex.targets, EdgeIndex.sources]

/-! ### Single links -/

/-- A link is another one if any of its parts differs. -/
theorem eq_link_iff {other : Link} : other = link ↔
    other.domain = link.domain ∧ other.member = link.member ∧ other.group = link.group := by
  constructor
  · rintro rfl
    exact ⟨rfl, rfl, rfl⟩
  · obtain ⟨member, group, domain⟩ := link
    rintro ⟨rfl, rfl, rfl⟩
    rfl

/-- A link that is added is there with all others. -/
theorem linkSet_addLink : (graph.addLink link).linkSet = insert link graph.linkSet := by
  ext other
  rw [Set.mem_insert_iff, addLink]
  split <;> rename_i known
  · -- A link that is known is not added, and is in the set already.
    exact ⟨.inr, fun either => either.elim (fun same => same ▸ known) id⟩
  · -- One that is new becomes a target in its domain.
    rw [mem_linkSet, mem_linkSet, EdgeIndex.mem_targets_insert, eq_link_iff]

/-- A link that is removed is not there, and all others are. -/
theorem linkSet_removeLink : (graph.removeLink link).linkSet = graph.linkSet \ {link} := by
  ext other
  rw [Set.mem_sdiff, Set.mem_singleton_iff, removeLink]
  split <;> rename_i known
  · -- A link that is known is a target no more.
    rw [mem_linkSet, mem_linkSet, EdgeIndex.mem_targets_erase, eq_link_iff]
  · -- One that is not known is not in the set, and nothing is taken out of it.
    exact ⟨fun there => ⟨there, fun same => known (same ▸ there)⟩, (·.1)⟩

/-- A graph stays mirrored when a link is added. -/
theorem IsMirrored.addLink (mirrored : graph.IsMirrored) (link : Link) :
    (graph.addLink link).IsMirrored := by
  unfold RoleGraph.addLink
  split <;> rename_i known
  · -- Nothing is changed where the link is known.
    exact mirrored
  · -- The check is made in one direction, and by the mirror it holds in the other one.
    have fresh : link.group ∉ graph.roles.targets link.domain link.member :=
      fun there => known (mem_linkSet.mpr there)
    have freshTurned := mt (mirrored.turned ..).mpr fresh
    refine ⟨mirrored.roles.insert fresh, mirrored.users.insert freshTurned,
      fun domain member group => ?_⟩
    simp only [EdgeIndex.mem_targets_insert, mirrored.turned]
    exact or_congr_left (and_congr_right' and_comm)

/-- A graph stays mirrored when a link is removed. -/
theorem IsMirrored.removeLink (mirrored : graph.IsMirrored) (link : Link) :
    (graph.removeLink link).IsMirrored := by
  unfold RoleGraph.removeLink
  split
  · -- The link is taken out in both directions.
    refine ⟨mirrored.roles.erase .., mirrored.users.erase .., fun domain member group => ?_⟩
    simp only [EdgeIndex.mem_targets_erase, mirrored.turned]
    exact and_congr_right' (not_congr (and_congr_right' and_comm))
  · -- Nothing is changed where the link is not known.
    exact mirrored

/-! ### Rebuilds -/

/-- Links that are added one after the other are there with all others. -/
theorem linkSet_foldl_addLink (links : List Link) (graph : RoleGraph) :
    (links.foldl addLink graph).linkSet = {link | link ∈ links} ∪ graph.linkSet := by
  induction links generalizing graph with
  | nil => simp
  | cons first rest ih =>
    rw [List.foldl_cons, ih, linkSet_addLink]
    ext link
    simp [or_assoc]

/-- The graph of links is what one comes to by adding them one after the other. -/
theorem ofLinks_eq_foldl (links : List Link) : ofLinks links = links.foldl addLink empty := by
  induction links using List.reverseRecOn with
  | nil => rfl
  | append_singleton earlier last ih =>
    have there : (ofLinks earlier).hasLink last = true ↔ last ∈ earlier := by
      change last ∈ (ofLinks earlier).linkSet ↔ _
      rw [ih, linkSet_foldl_addLink, linkSet_empty, Set.union_empty, Set.mem_ofPred_eq]
    rw [List.foldl_append, ← ih, List.foldl_cons, List.foldl_nil, addLink]
    by_cases repeated : last ∈ earlier
    · -- A repetition is neither among the distinct links nor added.
      rw [if_pos (there.mpr repeated), ofLinks, Text.distinct_concat,
        if_pos (by simpa using repeated), ← ofLinks]
    · -- A new link is the last of the distinct ones.
      rw [if_neg (repeated ∘ there.mp)]
      simp only [ofLinks, Text.distinct_concat, List.contains_iff_mem, Text.mem_distinct, repeated,
        if_false, List.map_append, List.map_singleton, EdgeIndex.ofEdges_concat]

/-- The graph of links has just these. -/
theorem linkSet_ofLinks (links : List Link) : (ofLinks links).linkSet = {link | link ∈ links} := by
  rw [ofLinks_eq_foldl, linkSet_foldl_addLink, linkSet_empty, Set.union_empty]

/-- The graph of links is mirrored. -/
theorem isMirrored_ofLinks (links : List Link) : (ofLinks links).IsMirrored := by
  rw [ofLinks_eq_foldl]
  exact List.foldlRecOn links addLink isMirrored_empty fun graph mirrored link _ =>
    mirrored.addLink link

/-! ### Changes in a row -/

/-- A change to a graph makes the same change to the set of its links. -/
theorem linkSet_after (graph : RoleGraph) (change : GraphChange) :
    (graph.after change).linkSet = change.onSet graph.linkSet := by
  cases change with
  | add link => exact linkSet_addLink
  | remove link => exact linkSet_removeLink
  | rebuild given => exact linkSet_ofLinks given

/-- Each change leaves a graph mirrored. -/
theorem IsMirrored.after (mirrored : graph.IsMirrored) (change : GraphChange) :
    (graph.after change).IsMirrored := by
  cases change with
  | add link => exact mirrored.addLink link
  | remove link => exact mirrored.removeLink link
  | rebuild given => exact isMirrored_ofLinks given

/-- Changes in a row leave a graph mirrored. -/
theorem IsMirrored.run (mirrored : graph.IsMirrored) (changes : List GraphChange) :
    (graph.run changes).IsMirrored :=
  List.foldlRecOn changes RoleGraph.after mirrored fun _ mirrored change _ => mirrored.after change

/-- The links of a graph are the edges of its first direction. -/
theorem links_eq_map (graph : RoleGraph) :
    graph.links = graph.roles.edges.map fun (domain, member, group) => ⟨member, group, domain⟩ := by
  simp [links, EdgeIndex.edges, List.map_flatMap, Function.comp_def]

/-- A mirrored graph lists just the links that it has. -/
theorem IsMirrored.mem_links (mirrored : graph.IsMirrored) :
    link ∈ graph.links ↔ link ∈ graph.linkSet := by
  rw [mem_linkSet, mirrored.roles.mem_targets, ← EdgeIndex.mem_edges, links_eq_map, List.mem_map]
  constructor
  · rintro ⟨edge, member, rfl⟩
    exact member
  · exact fun member => ⟨_, member, rfl⟩

/-- A mirrored graph lists each of its links once. -/
theorem IsMirrored.nodup_links (mirrored : graph.IsMirrored) : graph.links.Nodup := by
  rw [links_eq_map]
  refine mirrored.roles.nodup_edges.map fun first second same => ?_
  simp only [Link.mk.injEq] at same
  exact Prod.ext same.2.2 (Prod.ext same.1 same.2.1)

/-- A mirrored graph counts each of its links once. -/
theorem IsMirrored.linkCount_eq_ncard (mirrored : graph.IsMirrored) :
    graph.linkCount = graph.linkSet.ncard := by
  -- The links, as they are listed, are those of the set.
  have listed : graph.linkSet = (graph.links.toFinset : Set Link) := by
    ext link
    rw [List.coe_toFinset, ← mirrored.mem_links]
    rfl
  calc graph.linkCount = graph.links.length := by
        rw [linkCount, EdgeIndex.size_eq_length_edges, links_eq_map, List.length_map]
    _ = graph.links.toFinset.card := (List.toFinset_card_of_nodup mirrored.nodup_links).symm
    _ = graph.linkSet.ncard := by rw [listed, Set.ncard_coe_finset]

/-- Whatever links are added to the empty graph and removed from it, and however often it is
rebuilt: a group is found for a member exactly where the member is found for the group; neither
direction has an edge twice, a source without targets or a domain without sources; the links are
counted each once; and the next change adds or removes its own link alone or leaves just the links
given to it. -/
theorem run_isMirrored (changes : List GraphChange) :
    (∀ domain member group, group ∈ (empty.run changes).roles.targets domain member ↔
      member ∈ (empty.run changes).users.targets domain group) ∧
    (empty.run changes).roles.IsTidy ∧ (empty.run changes).users.IsTidy ∧
    (empty.run changes).linkCount = (empty.run changes).linkSet.ncard ∧
    ∀ change, ((empty.run changes).after change).linkSet =
      change.onSet (empty.run changes).linkSet := by
  have mirrored : (empty.run changes).IsMirrored :=
    List.foldlRecOn changes after isMirrored_empty fun graph mirrored change _ =>
      mirrored.after change
  exact ⟨mirrored.turned, mirrored.roles, mirrored.users, mirrored.linkCount_eq_ncard,
    linkSet_after _⟩

-- A link that is added twice is gone when it is removed once, and nothing is left of its domain.
example : empty.run [.add ⟨"alice", "admin", "acme"⟩, .add ⟨"alice", "admin", "acme"⟩,
    .remove ⟨"alice", "admin", "acme"⟩] = empty := by decide

end RoleGraph

end AccessControl
