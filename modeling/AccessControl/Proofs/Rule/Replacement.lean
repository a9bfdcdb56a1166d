import AccessControl.Proofs.Rule.Run

/-! Rules in the place of others: each stands where the old one stood and all else is as before.
None of them is lost exactly if no old rule is given twice. -/

namespace AccessControl

namespace Store

section

variable {runtime : Runtime} {store next : Store} {ptype : String} {olds news stored : List Rule}
  {rule : Rule}

/-! ### Single rules -/

/-- A rule that is none of the old ones stays. -/
theorem replacement_of_notMem (other : rule ∉ olds) : replacement (olds.zip news) rule = rule := by
  rcases replacement_cases (olds.zip news) rule with ⟨pair, member, rfl, _⟩ | ⟨_, stays⟩
  · -- An old rule is replaced.
    exact absurd (List.of_mem_zip member).1 other
  · -- Any other rule stays.
    exact stays

/-- An old rule gives way to one that is given with it. -/
theorem replacement_of_mem (length : olds.length = news.length) (member : rule ∈ olds) :
    (rule, replacement (olds.zip news) rule) ∈ olds.zip news := by
  -- The rule is replaced by the one at its side.
  rcases replacement_cases (olds.zip news) rule with ⟨pair, listed, rfl, gives⟩ | ⟨none, _⟩
  · rw [gives]
    exact listed
  · -- Every old rule has a new one at its side.
    have sides : (olds.zip news).map (·.1) = olds := List.map_fst_zip length.le
    rw [← sides] at member
    obtain ⟨pair, listed, same⟩ := List.mem_map.mp member
    exact absurd same (none pair listed)

/-- The new rules at the side of the old ones, if no other new rule is given for any of these. -/
def Serves (olds news : List Rule) : Prop :=
  ∀ pair ∈ olds.zip news, replacement (olds.zip news) pair.1 = pair.2

/-- Every new rule serves, if no old rule is given twice and only then. -/
theorem serves_iff_nodup (length : olds.length = news.length) (distinct : news.Nodup) :
    Serves olds news ↔ olds.Nodup := by
  have left : (olds.zip news).map (·.1) = olds := List.map_fst_zip length.le
  have right : (olds.zip news).map (·.2) = news := List.map_snd_zip length.ge
  constructor
  · -- The new rules are what the old ones are replaced by, so different ones are of different old rules.
    intro serves
    have image : olds.map (replacement (olds.zip news)) = news := by
      calc olds.map (replacement (olds.zip news))
        _ = ((olds.zip news).map (·.1)).map (replacement (olds.zip news)) := by rw [left]
        _ = (olds.zip news).map fun pair => replacement (olds.zip news) pair.1 := List.map_map
        _ = (olds.zip news).map (·.2) := List.map_congr_left serves
        _ = news := right
    exact List.Nodup.of_map _ (image ▸ distinct)
  · intro once pair member
    -- What an old rule gives way to is given with it, and so is the new rule of the pair.
    have listed := replacement_of_mem length (List.of_mem_zip member).1
    have same := List.inj_on_of_nodup_map (left.symm ▸ once) listed member rfl
    exact congrArg Prod.snd same

/-! ### All rules of a type -/

namespace CanReplace

variable (can : CanReplace stored olds news)
include can

/-- A stored rule is replaced by one that is not stored exactly if it is one of the old rules. -/
theorem replacement_mem_iff (known : rule ∈ stored) :
    replacement (olds.zip news) rule ∈ news ↔ rule ∈ olds := by
  refine ⟨fun new => ?_, fun old => (List.of_mem_zip (replacement_of_mem can.length old)).2⟩
  by_contra other
  rw [replacement_of_notMem other] at new
  exact can.fresh rule new known

/-- No old rule is left. -/
theorem gone (old : rule ∈ olds) : rule ∉ stored.map (replacement (olds.zip news)) := by
  intro left
  obtain ⟨other, known, same⟩ := List.mem_map.mp left
  -- Where another rule stays it is no old one, and where one is replaced there is a new rule.
  -- A rule that is replaced gives a new one, and none of these was stored.
  by_cases replaced : other ∈ olds
  · have new := (can.replacement_mem_iff known).mpr replaced
    rw [same] at new
    exact can.fresh rule new (can.known rule old)
  · -- A rule that stays is none of the old ones.
    rw [replacement_of_notMem replaced] at same
    exact replaced (same ▸ old)

/-- Every new rule is there exactly if each of them serves. -/
theorem all_there_iff_serves :
    (∀ rule ∈ news, rule ∈ stored.map (replacement (olds.zip news))) ↔ Serves olds news := by
  constructor
  · intro there pair member
    obtain ⟨other, known, same⟩ := List.mem_map.mp (there pair.2 (List.of_mem_zip member).2)
    have new : replacement (olds.zip news) other ∈ news := same ▸ (List.of_mem_zip member).2
    have listed := replacement_of_mem can.length ((can.replacement_mem_iff known).mp new)
    -- The new rule is given once, so the rule that it replaces is the one at its side.
    have right : (olds.zip news).map (·.2) = news := List.map_snd_zip can.length.ge
    have both := List.inj_on_of_nodup_map (right.symm ▸ can.distinct) listed member same
    rw [← both, same]
  · intro serves rule new
    have right : (olds.zip news).map (·.2) = news := List.map_snd_zip can.length.ge
    rw [← right] at new
    obtain ⟨pair, member, rfl⟩ := List.mem_map.mp new
    exact List.mem_map.mpr ⟨pair.1, can.known _ (List.of_mem_zip member).1, serves pair member⟩

end CanReplace

/-- Wherever rules have taken the place of others, there were as many of both. The type has as many
rules as before: at the place of an old rule stands one that was given with it, and at every other
place the rule from before. No old rule is left, and no other type has changed. Every new rule is
there exactly if no old rule was given twice. -/
theorem updateMany_replaces [Runtime] {old new : Value}
    (applied : store.updateMany ptype old new = .ok (some next)) :
    ∃ olds news, Rule.listOfValue ptype old = .ok olds ∧ Rule.listOfValue ptype new = .ok news ∧
      olds.length = news.length ∧
      (next.rules ptype).length = (store.rules ptype).length ∧
      (∀ (place : Nat) rule, (store.rules ptype)[place]? = some rule → rule ∉ olds →
        (next.rules ptype)[place]? = some rule) ∧
      (∀ (place : Nat) rule, (store.rules ptype)[place]? = some rule → rule ∈ olds →
        ∃ other, (rule, other) ∈ olds.zip news ∧ (next.rules ptype)[place]? = some other) ∧
      (∀ rule ∈ olds, rule ∉ next.rules ptype) ∧
      (∀ other ≠ ptype, next.rules other = store.rules other) ∧
      ((∀ rule ∈ news, rule ∈ next.rules ptype) ↔ olds.Nodup) := by
  obtain ⟨olds, news, givesOld, givesNew, can, rfl⟩ := updateMany_eq_ok_iff.mp applied
  have left :
      (store.publish ptype ((store.rules ptype).map (replacement (olds.zip news)))).rules ptype =
      (store.rules ptype).map (replacement (olds.zip news)) := rules_publish_self _
  refine ⟨olds, news, givesOld, givesNew, can.length, ?_, ?_, ?_, ?_, ?_, ?_⟩
  · -- As many rules are left.
    rw [left, List.length_map]
  · -- A rule that is not old stays in its place.
    intro place rule stood other
    rw [left, List.getElem?_map, stood, Option.map_some, replacement_of_notMem other]
  · -- An old rule is replaced in its place.
    intro place rule stood replaced
    refine ⟨_, replacement_of_mem can.length replaced, ?_⟩
    rw [left, List.getElem?_map, stood, Option.map_some]
  · -- No old rule is left.
    rw [left]
    exact fun rule => can.gone
  · -- Other types are left as they are.
    exact fun other different => by simp [rules_publish, different]
  · -- All new rules are there if no old one was given twice.
    rw [left, can.all_there_iff_serves, serves_iff_nodup can.length can.distinct]

end

/-- A store with two rules. -/
def pairStore : Store :=
  empty.run [.change "p" (.add (.list [.text "ann", .text "read"])),
    .change "p" (.add (.list [.text "bob", .text "read"]))]

/-- Both rules give way, the last one first. -/
theorem updateMany_replaces_both :
    pairStore.updateMany "p"
      (.list [.list [.text "bob", .text "read"], .list [.text "ann", .text "read"]])
      (.list [.list [.text "cy", .text "read "], .list [.text "dan", .text "read"]]) =
        .ok (some ⟨[("p", [["dan", "read"], ["cy", "read"]])]⟩) ∧
    ∃ olds news : List Rule, olds.length = news.length ∧ olds.Nodup ∧
      (∀ rule ∈ news, rule ∈ Store.rules ⟨[("p", [["dan", "read"], ["cy", "read"]])]⟩ "p") ∧
      ∀ rule ∈ olds, rule ∉ Store.rules ⟨[("p", [["dan", "read"], ["cy", "read"]])]⟩ "p" := by
  have applied : pairStore.updateMany "p"
      (.list [.list [.text "bob", .text "read"], .list [.text "ann", .text "read"]])
      (.list [.list [.text "cy", .text "read "], .list [.text "dan", .text "read"]]) =
        .ok (some ⟨[("p", [["dan", "read"], ["cy", "read"]])]⟩) := by decide +kernel
  obtain ⟨olds, news, givesOld, _, length, _, _, _, gone, _, there⟩ := updateMany_replaces applied
  have once : olds.Nodup := by
    obtain rfl : [["bob", "read"], ["ann", "read"]] = olds := Except.ok.inj givesOld
    decide
  exact ⟨applied, olds, news, length, once, there.mpr once, gone⟩

/-- A rule for which two are given is replaced by the second one, and the first one is lost. -/
theorem updateMany_loses_rule :
    pairStore.updateMany "p"
      (.list [.list [.text "ann", .text "read"], .list [.text "ann", .text "read"]])
      (.list [.list [.text "cy", .text "read"], .list [.text "dan", .text "read"]]) =
        .ok (some ⟨[("p", [["dan", "read"], ["bob", "read"]])]⟩) ∧
    ["cy", "read"] ∉ Store.rules ⟨[("p", [["dan", "read"], ["bob", "read"]])]⟩ "p" := by
  decide +kernel

end Store

end AccessControl
