import Mathlib.Data.Option.Basic
import RouteReport.Proofs.Index.Table
import RouteReport.Proofs.Naming.ControllerNames

namespace RouteReport

/-- A name as an index looks it up: without white space around it and a mark of the top level. -/
def soughtName (name : Text) : Text := (name.trim.afterPrefix? scopeMark).getD name.trim

/-- A name without white space around it and without a mark of the top level. -/
structure IsBareName (name : Text) : Prop where
  nonempty : name ≠ []
  trimmed : name.trim = name
  relative : ¬ scopeMark <+: name

instance (name : Text) : Decidable (IsBareName name) :=
  decidable_of_iff (name ≠ [] ∧ name.trim = name ∧ ¬ scopeMark <+: name)
    ⟨fun ⟨nonempty, trimmed, relative⟩ => ⟨nonempty, trimmed, relative⟩,
      fun bare => ⟨bare.nonempty, bare.trimmed, bare.relative⟩⟩

namespace IsBareName

variable {table : ContainerTable} {name : Text} {entry : Container} (bare : IsBareName name)

include bare

theorem lookup?_eq : table.lookup? name = (table.get? name <|>
    table.find? fun entry => Text.lower entry.qualifiedName == name.lower) := by
  have read : (name.trim.afterPrefix? scopeMark).getD name.trim = name := by
    rw [bare.trimmed, Text.afterPrefix?_eq_none bare.relative, Option.getD_none]
  exact table.lookup?_of_bare read bare.nonempty

theorem lookup?_of_get? (exact : table.get? name = some entry) : table.lookup? name = some entry := by
  rw [bare.lookup?_eq, exact]
  rfl

theorem lower_of_lookup? (found : table.lookup? name = some entry) :
    Text.lower entry.qualifiedName = name.lower := by
  rw [bare.lookup?_eq] at found
  rcases (Option.orElse_eq_some _ _ _).mp found with exact | ⟨_, folded⟩
  · rw [(ContainerTable.mem_of_get? exact).2]
  · have same := List.find?_some folded
    exact eq_of_beq same

theorem lookup?_eq_none_iff : table.lookup? name = none ↔
    ∀ entry ∈ table, Text.lower entry.qualifiedName ≠ name.lower := by
  constructor
  · intro nothing entry member same
    rw [bare.lookup?_eq, Option.orElse_eq_none] at nothing
    exact List.find?_eq_none.mp nothing.2 entry member (beq_iff_eq.mpr same)
  · intro different
    cases found : table.lookup? name with
    | none => rfl
    | some entry =>
      exact absurd (bare.lower_of_lookup? found) (different entry (ContainerTable.lookup?_mem found))

end IsBareName

end RouteReport
