import AccessControl.Proofs.Rule.Normal
import AccessControl.Proofs.Text.Distinct
import AccessControl.Rule.Store

/-! What a change makes of the rules of its type: they stay different and normal, and those that
stay keep their order. -/

namespace AccessControl

/-- What a change makes of the rules of its type: more rules at the end, some rules less, or other
rules in the place of some. -/
inductive Rewrite (before : List Rule) : List Rule → Prop
  | grown {added : List Rule} (distinct : added.Nodup) (fresh : ∀ rule ∈ added, rule ∉ before)
    (normal : ∀ rule ∈ added, rule.IsNormal) : Rewrite before (before ++ added)
  | shrunk (keeps : Rule → Bool) : Rewrite before (before.filter keeps)
  | replaced {pairs : List (Rule × Rule)} (distinct : (pairs.map (·.2)).Nodup)
    (fresh : ∀ pair ∈ pairs, pair.2 ∉ before) (normal : ∀ pair ∈ pairs, pair.2.IsNormal) :
    Rewrite before (before.map (Store.replacement pairs))

namespace Store

variable {runtime : Runtime} {store next : Store} {ptype : String} {olds news : List Rule}

/-- Rules that are published are a rewrite of those of their type. -/
def Rewrites (store : Store) (ptype : String) (next : Store) : Prop :=
  ∃ rules, next = store.publish ptype rules ∧ Rewrite (store.rules ptype) rules

/-- Rules can take the place of others: there are as many of both, the others are stored, and the
new ones are not and are all different. -/
structure CanReplace (stored olds news : List Rule) : Prop where
  length : olds.length = news.length
  known : ∀ rule ∈ olds, rule ∈ stored
  fresh : ∀ rule ∈ news, rule ∉ stored
  distinct : news.Nodup

/-- Rules take the place of as many others if these are all stored, and if they are not stored and
all different. -/
theorem updateMany_eq {old new : Value} (givesOld : Rule.listOfValue ptype old = .ok olds)
    (givesNew : Rule.listOfValue ptype new = .ok news) (length : olds.length = news.length) :
    store.updateMany ptype old new = .ok (if (∀ rule ∈ olds, rule ∈ store.rules ptype) ∧
        (∀ rule ∈ news, rule ∉ store.rules ptype) ∧ news.Nodup then
      some
        (store.publish ptype
          ((store.rules ptype).map (replacement (olds.zip news)))) else none) := by
  have known : !olds.all (store.rules ptype).contains ↔
      ¬ ∀ rule ∈ olds, rule ∈ store.rules ptype := by
    simp
  have refused : news.any (store.rules ptype).contains ||
      (Text.distinct news).length != news.length ↔
      ¬ ((∀ rule ∈ news, rule ∉ store.rules ptype) ∧ news.Nodup) := by
    rw [← Text.length_distinct_eq_iff]
    simp [imp_iff_not_or]
  simp only [updateMany, Rule.length_of_listOfValue givesOld,
    Rule.length_of_listOfValue givesNew, givesOld,
    givesNew, ok_bind, length, bne_self_eq_false, pure_eq_ok, known, refused, ite_not, ite_and]
  rfl

/-- Rules take the place of others exactly if they can. -/
theorem updateMany_eq_ok_iff {old new : Value} :
    store.updateMany ptype old new = .ok (some next) ↔ ∃ olds news,
      Rule.listOfValue ptype old = .ok olds ∧ Rule.listOfValue ptype new = .ok news ∧
      CanReplace (store.rules ptype) olds news ∧
      next = store.publish ptype ((store.rules ptype).map (replacement (olds.zip news))) := by
  constructor
  · intro applied
    obtain ⟨oldCount, oldHeld, after⟩ := bind_eq_ok.mp applied
    obtain ⟨newCount, newHeld, after⟩ := bind_eq_ok.mp after
    split at after
    · -- There are more rules of one kind, or none at all.
      cases after
    rename_i counts
    obtain ⟨olds, givesOld, after⟩ := bind_eq_ok.mp after
    obtain ⟨news, givesNew, _⟩ := bind_eq_ok.mp after
    -- What both values hold has been counted before the rules were made of it.
    have length : olds.length = news.length := by
      rw [Rule.length_of_listOfValue givesOld] at oldHeld
      rw [Rule.length_of_listOfValue givesNew] at newHeld
      obtain rfl := Except.ok.inj oldHeld
      obtain rfl := Except.ok.inj newHeld
      simpa using counts
    rw [updateMany_eq givesOld givesNew length, Except.ok.injEq] at applied
    -- The rules can be replaced.
    split at applied
    · rename_i can
      exact ⟨olds, news, givesOld, givesNew, ⟨length, can.1, can.2.1, can.2.2⟩,
        (Option.some.inj applied).symm⟩
    · -- They cannot, and nothing is done.
      cases applied
  · rintro ⟨olds, news, givesOld, givesNew, can, rfl⟩
    rw [updateMany_eq givesOld givesNew can.length, if_pos ⟨can.known, can.fresh, can.distinct⟩]

/-- Rules in the place of others are new and different. -/
theorem updateMany_rewrites {old new : Value}
    (applied : store.updateMany ptype old new = .ok (some next)) : store.Rewrites ptype next := by
  obtain ⟨olds, news, _, given, can, rfl⟩ := updateMany_eq_ok_iff.mp applied
  refine ⟨_, rfl, .replaced ?_ (fun pair member => can.fresh _ (List.of_mem_zip member).2)
    fun pair member => Rule.isNormal_of_listOfValue given _ (List.of_mem_zip member).2⟩
  rw [List.map_snd_zip can.length.ge]
  exact can.distinct

/-- Rules that pass a filter are removed by publishing the others, unless there are none. -/
theorem removeFiltered_cases {position : Int} {wanted : List Value} {removed : List Rule}
    (filtered : store.removeFiltered ptype position wanted = .ok (next, removed)) :
    removed = [] ∧ next = store ∨
      removed ≠ [] ∧ store.filter ptype position wanted = .ok removed ∧
        next = store.publish ptype ((store.rules ptype).filter fun rule =>
          !removed.contains rule) := by
  simp only [removeFiltered] at filtered
  -- Nothing is asked of the fields.
  split at filtered
  · cases filtered
    exact .inl ⟨rfl, rfl⟩
  obtain ⟨found, passing, filtered⟩ := bind_eq_ok.mp filtered
  -- No rule passes.
  split at filtered
  · cases filtered
    exact .inl ⟨rfl, rfl⟩
  · -- Those that pass are removed.
    rename_i nonempty
    cases filtered
    exact .inr ⟨by simpa using nonempty, passing, rfl⟩

/-- A change that takes place rewrites the rules of its type. -/
theorem apply_rewrites {change : Change} (applied : store.apply ptype change = .ok (some next)) :
    store.Rewrites ptype next := by
  cases change with
  -- A rule is added if it is new.
  | add given =>
    obtain ⟨rule, gives, applied⟩ := bind_eq_ok.mp applied
    simp only [pure_eq_ok, Except.ok.injEq] at applied
    split at applied
    · cases applied
    · rename_i fresh
      obtain rfl := Option.some.inj applied
      have normal := Rule.isNormal_of_ofValue gives
      exact ⟨_, rfl, .grown (List.nodup_singleton rule) (by simpa using fresh)
        (by simpa using normal)⟩
  -- Rules are added if they are all new.
  | addMany given =>
    obtain ⟨rules, gives, applied⟩ := bind_eq_ok.mp applied
    simp only [pure_eq_ok, Except.ok.injEq] at applied
    split at applied
    · cases applied
    · rename_i fresh
      obtain rfl := Option.some.inj applied
      simp only [Bool.or_eq_true, List.any_eq_true, List.contains_iff_mem, not_or, not_exists,
        not_and] at fresh
      exact ⟨_, rfl, .grown (Text.nodup_distinct rules) fresh.2 fun rule member =>
        Rule.isNormal_of_listOfValue gives rule (Text.mem_distinct.mp member)⟩
  -- A rule is removed if it is stored.
  | remove given =>
    obtain ⟨rule, _, applied⟩ := bind_eq_ok.mp applied
    simp only [pure_eq_ok, Except.ok.injEq] at applied
    split at applied
    · obtain rfl := Option.some.inj applied
      exact ⟨_, rfl, .shrunk _⟩
    · cases applied
  -- Rules are removed if they are all stored.
  | removeMany given =>
    obtain ⟨rules, _, applied⟩ := bind_eq_ok.mp applied
    simp only [pure_eq_ok, Except.ok.injEq] at applied
    split at applied
    · cases applied
    · obtain rfl := Option.some.inj applied
      exact ⟨_, rfl, .shrunk _⟩
  | removeFiltered position wanted =>
    obtain ⟨⟨changed, removed⟩, filtered, applied⟩ := bind_eq_ok.mp applied
    -- A filter that removes nothing changes nothing.
    rcases removeFiltered_cases filtered with ⟨rfl, _⟩ | ⟨nonempty, _, rfl⟩
    · cases applied
    · obtain rfl : store.publish ptype _ = next := by simpa [nonempty] using applied
      exact ⟨_, rfl, .shrunk _⟩
  -- An update is one of a single rule.
  | update old new => exact updateMany_rewrites applied
  | updateMany olds news => exact updateMany_rewrites applied

/-- What takes the place of a rule is the second part of a pair with it, or else the rule itself. -/
theorem replacement_cases (pairs : List (Rule × Rule)) (rule : Rule) :
    (∃ pair ∈ pairs, pair.1 = rule ∧ replacement pairs rule = pair.2) ∨
      (∀ pair ∈ pairs, pair.1 ≠ rule) ∧ replacement pairs rule = rule := by
  unfold replacement
  cases found : pairs.reverse.find? fun pair => pair.1 == rule with
  -- The last pair for the rule replaces it.
  | some pair =>
    have first := List.find?_some found
    have member := List.mem_of_find?_eq_some found
    exact .inl ⟨pair, by simpa using member, by simpa using first, rfl⟩
  -- No pair does.
  | none => exact .inr ⟨by simpa using found, rfl⟩

end Store

namespace Rewrite

variable {before after : List Rule}

/-- A rewrite keeps rules different. -/
theorem nodup (rewrite : Rewrite before after) (distinct : before.Nodup) : after.Nodup := by
  cases rewrite with
  -- What is added is distinct and new.
  | grown different fresh _ =>
    exact distinct.append different fun rule stored member => fresh rule member stored
  -- What is left was distinct.
  | shrunk keeps => exact distinct.filter keeps
  | @replaced pairs different fresh _ =>
    refine distinct.map_on fun first stored second storedToo same => ?_
    rcases Store.replacement_cases pairs first with ⟨pair, member, rfl, own⟩ | ⟨_, own⟩ <;>
      rcases Store.replacement_cases pairs second with ⟨other, listed, rfl, its⟩ | ⟨_, its⟩
    · -- Replacements that are the same come from one pair.
      have equal : pair.2 = other.2 := own.symm.trans (same.trans its)
      rw [List.inj_on_of_nodup_map different member listed equal]
    · -- A rule that is stored is none of the replacements.
      exact absurd (own.symm.trans (same.trans its) ▸ storedToo) (fresh pair member)
    · -- Nor the other way around.
      exact absurd (its.symm.trans (same.symm.trans own) ▸ stored) (fresh other listed)
    · -- Rules that stay are the same ones.
      exact own.symm.trans (same.trans its)

/-- A rewrite keeps rules normal. -/
theorem isNormal (rewrite : Rewrite before after) (normal : ∀ rule ∈ before, rule.IsNormal) :
    ∀ rule ∈ after, rule.IsNormal := by
  cases rewrite with
  | grown _ _ new =>
    intro rule member
    -- The rule was stored.
    rcases List.mem_append.mp member with stored | added
    · exact normal rule stored
    · -- The rule is a new one.
      exact new rule added
  | shrunk keeps => exact fun rule member => normal rule (List.mem_filter.mp member).1
  | @replaced pairs _ _ new =>
    intro rule member
    obtain ⟨stored, isStored, rfl⟩ := List.mem_map.mp member
    rcases Store.replacement_cases pairs stored with ⟨pair, listed, _, own⟩ | ⟨_, own⟩
    · -- A replacement is a new rule.
      exact own ▸ new pair listed
    · -- A rule that stays was stored.
      exact own.symm ▸ normal stored isStored

/-- The rules that a rewrite leaves in place are in the same order before it and after it. -/
theorem sameOrder (rewrite : Rewrite before after) :
    before.filter (· ∈ after) = after.filter (· ∈ before) := by
  cases rewrite with
  -- All stored rules are left, and nothing that is added was stored.
  | @grown added _ fresh _ =>
    have none : added.filter (· ∈ before) = [] := by simpa using fresh
    rw [List.filter_append, none, List.append_nil]
    exact List.filter_congr fun rule stored => by simp [stored]
  -- What is left is what stays of the stored rules.
  | shrunk keeps =>
    rw [List.filter_filter]
    exact List.filter_congr fun rule stored => by simp [stored]
  | @replaced pairs _ fresh _ =>
    -- A replacement is stored only if it is none, that is, if its rule stays in its place.
    have stays {rule : Rule} (stored : Store.replacement pairs rule ∈ before) :
        Store.replacement pairs rule = rule := by
      rcases Store.replacement_cases pairs rule with ⟨pair, listed, _, own⟩ | ⟨_, own⟩
      · -- A replacement is not stored.
        exact absurd (own ▸ stored) (fresh pair listed)
      · -- The rule stays.
        exact own
    rw [List.filter_map]
    calc before.filter (· ∈ before.map (Store.replacement pairs))
      _ = before.filter fun rule => Store.replacement pairs rule ∈ before := by
        refine List.filter_congr fun rule stored => ?_
        rw [decide_eq_decide, List.mem_map]
        constructor
        · rintro ⟨other, _, rfl⟩
          rw [stays stored, stays stored]
          exact stays stored ▸ stored
        · exact fun remains => ⟨rule, stored, stays remains⟩
      _ = (before.filter fun rule => Store.replacement pairs rule ∈ before).map
          (Store.replacement pairs) := by
        refine (List.map_id _).symm.trans (List.map_congr_left fun rule member => ?_)
        exact (stays (by simpa using (List.mem_filter.mp member).2)).symm

end Rewrite

end AccessControl
