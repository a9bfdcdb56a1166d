import AccessControl.Proofs.Journal
import AccessControl.Proofs.Text.Blanks
import AccessControl.Proofs.Value.Host
import AccessControl.Rule.Basic

/-! Rules that values give have a field, and no blanks at the ends of their fields. -/

namespace AccessControl

namespace Rule

/-- A rule as it is stored: it has a field, and no field of it has blanks at its ends. -/
structure IsNormal (rule : Rule) : Prop where
  nonempty : rule ≠ []
  trimmed : ∀ field ∈ rule, Text.trim field = field

variable {runtime : Runtime} {ptype : Option String} {given : Value}

/-- The rule that a value gives is normal. -/
theorem isNormal_of_ofValue {rule : Rule} (gives : ofValue ptype given = .ok rule) :
    rule.IsNormal := by
  unfold ofValue at gives
  split at gives
  · -- A text is no rule.
    cases gives
  · obtain ⟨items, _, gives⟩ := bind_eq_ok.mp gives
    split at gives
    · -- A rule has a field at least.
      cases gives
    · rename_i filled
      obtain ⟨texts, written, gives⟩ := bind_eq_ok.mp gives
      obtain rfl := Except.ok.inj gives
      -- Each field is the trimmed text of an item, of which there is one at least.
      have many := length_of_mapM_eq_ok written
      refine ⟨fun empty => filled ?_, fun field member => ?_⟩
      · -- There are as many texts as items.
        obtain rfl := List.map_eq_nil_iff.mp empty
        exact List.isEmpty_iff_length_eq_zero.mpr many.symm
      · -- Each field is trimmed.
        obtain ⟨text, _, rfl⟩ := List.mem_map.mp member
        exact Text.trim_trim text

/-- The rules that a value gives are normal. -/
theorem isNormal_of_listOfValue {rules : List Rule} (gives : listOfValue ptype given = .ok rules) :
    ∀ rule ∈ rules, rule.IsNormal := by
  obtain ⟨items, _, gives⟩ := bind_eq_ok.mp gives
  intro rule member
  obtain ⟨item, _, gives⟩ := mem_of_mapM_eq_ok gives member
  exact isNormal_of_ofValue gives

/-- A value that gives rules holds as many things. -/
theorem length_of_listOfValue {rules : List Rule} (gives : listOfValue ptype given = .ok rules) :
    given.length = .ok rules.length := by
  obtain ⟨items, held, made⟩ := bind_eq_ok.mp gives
  rw [length_of_mapM_eq_ok made]
  cases given <;> cases held <;> simp [Value.length, String.length_toList]

end Rule

end AccessControl
