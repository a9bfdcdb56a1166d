import AccessControl.Text.Order
import Mathlib.Data.Finset.Card
import Mathlib.Data.List.Induction

/-! Leaving out repetitions keeps exactly the items of a list, and each of them once. -/

namespace AccessControl.Text

/-- An item is among the distinct ones exactly when it is in the list. -/
@[simp] theorem mem_distinct {α : Type} [BEq α] [LawfulBEq α] {items : List α} {item : α} :
    item ∈ distinct items ↔ item ∈ items := by
  -- The fold keeps what it has found, so the items found before stay quantified over.
  have general : ∀ (items found : List α),
      item ∈ items.foldl (fun found item => if found.contains item then found else found ++ [item])
        found ↔ item ∈ found ∨ item ∈ items := by
    intro items
    induction items with
    | nil => simp
    | cons first rest ih =>
      intro found
      simp only [List.foldl_cons, ih, List.mem_cons]
      split
      · -- A repetition was found before, so leaving it out loses nothing.
        rename_i repeated
        have member : first ∈ found := by simpa using repeated
        constructor
        · rintro (early | late)
          · exact .inl early
          · exact .inr (.inr late)
        · rintro (early | rfl | late)
          · exact .inl early
          · exact .inl member
          · exact .inr late
      · simp [or_assoc]
  simpa [distinct] using general items []

section

variable {α : Type} [BEq α] [LawfulBEq α]

/-- One more item counts only if it is not among the others. -/
theorem distinct_concat (items : List α) (item : α) :
    distinct (items ++ [item]) =
      if (distinct items).contains item then distinct items else distinct items ++ [item] := by
  simp [distinct, List.foldl_append]

/-- The distinct items are all different. -/
theorem nodup_distinct (items : List α) : (distinct items).Nodup := by
  induction items using List.reverseRecOn with
  | nil => exact List.nodup_nil
  | append_singleton earlier last ih =>
    rw [distinct_concat]
    split
    · exact ih
    · rename_i fresh
      -- The last item is appended only if it was not found before.
      have absent : last ∉ distinct earlier := by simpa using fresh
      exact ih.append (List.nodup_singleton last) (by simpa using absent)

/-- There are as many distinct items as the set of the items has members. -/
theorem length_distinct [DecidableEq α] (items : List α) :
    (distinct items).length = items.toFinset.card := by
  have same : items.toFinset = (distinct items).toFinset := by
    ext item
    simp
  rw [same, List.toFinset_card_of_nodup (nodup_distinct items)]

/-- None is left out exactly if the items are all different. -/
theorem length_distinct_eq_iff {items : List α} :
    (distinct items).length = items.length ↔ items.Nodup := by
  constructor
  · -- The distinct items are some of the items, and there are no others left.
    intro all
    have within : (distinct items).Subperm items :=
      List.subperm_of_subset (nodup_distinct items) fun _ => mem_distinct.mp
    exact (within.perm_of_length_le all.ge).nodup_iff.mp (nodup_distinct items)
  · intro different
    have same : (distinct items).Perm items :=
      (List.perm_ext_iff_of_nodup (nodup_distinct items) different).mpr fun _ => mem_distinct
    exact same.length_eq

end

end AccessControl.Text
