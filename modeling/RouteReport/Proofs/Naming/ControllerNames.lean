import Mathlib.Data.List.Find
import RouteReport.Index.Basic
import RouteReport.Proofs.ConstantPath
import RouteReport.Proofs.Naming.AsciiCase

namespace RouteReport

def relativePath (path : Text) : Text := (path.afterPrefix? scopeMark).getD path

/-- The name of a controller class that its controller gives back but for case. -/
structure IsPlainController (className : Text) : Prop where
  ascii : className.IsAscii
  noUnderscore : '_' ∉ className
  path : isConstantPath className = true
  converts : (controllerOfClass? className).isSome = true

instance (className : Text) : Decidable (IsPlainController className) :=
  decidable_of_iff (className.IsAscii ∧ '_' ∉ className ∧ isConstantPath className = true ∧
      (controllerOfClass? className).isSome = true)
    ⟨fun ⟨ascii, noUnderscore, path, converts⟩ => ⟨ascii, noUnderscore, path, converts⟩,
      fun plain => ⟨plain.ascii, plain.noUnderscore, plain.path, plain.converts⟩⟩

theorem relativePath_suffix (path : Text) : relativePath path <:+ path := by
  unfold relativePath Text.afterPrefix?
  split
  · exact List.drop_suffix _ _
  · exact List.suffix_rfl

theorem relativePath_spec {path : Text} (valid : isConstantPath path = true) :
    isConstantPath (relativePath path) = true ∧ ¬ scopeMark <+: relativePath path ∧
      ∃ marks, path = marks ++ relativePath path ∧ ∀ c ∈ marks, c = ':' := by
  have segments : (scopeSegments (relativePath path)).all isConstantSegment = true := valid
  have relative : ¬ scopeMark <+: relativePath path := by
    rintro ⟨tail, shape⟩
    rw [← shape] at segments
    simp [scopeMark, scopeSegments, isConstantSegment] at segments
  refine ⟨?_, relative, ?_⟩
  · rw [isConstantPath, Text.afterPrefix?_eq_none relative]
    exact segments
  · by_cases absolute : scopeMark <+: path
    · rcases absolute with ⟨tail, rfl⟩
      refine ⟨scopeMark, ?_, by simp [scopeMark]⟩
      rw [relativePath, Text.afterPrefix?_append, Option.getD_some]
    · refine ⟨[], ?_, by simp⟩
      rw [relativePath, Text.afterPrefix?_eq_none absolute, Option.getD_none, List.nil_append]

section Path

variable {path : Text} (valid : isConstantPath path = true)

include valid

theorem trim_path : path.trim = path :=
  Text.trim_of_printable fun _ present => printable_path valid present

theorem dropWhile_path : path.dropWhile (· == ':') = relativePath path := by
  rcases relativePath_spec valid with ⟨constant, relative, marks, shape, colons⟩
  rcases head_of_isConstantPath relative constant with ⟨c, rest, head, upper⟩
  have notColon : c ≠ ':' := by
    rintro rfl
    cases upper
  rw [shape, List.dropWhile_append_of_pos (by simpa using colons), ← shape, head]
  simp [notColon]

theorem bare_of_same_case (ascii : path.IsAscii) {text : Text} (asciiText : text.IsAscii)
    (same : text.map Text.lowerAscii = (relativePath path).map Text.lowerAscii) :
    (text.trim.afterPrefix? scopeMark).getD text.trim = text := by
  rcases relativePath_spec valid with ⟨constant, relative, _⟩
  rcases head_of_isConstantPath relative constant with ⟨c, rest, head, upper⟩
  have suffix := (relativePath_suffix path).subset
  have asciiPath := ascii.of_subset suffix
  have printable : ∀ x ∈ text, Text.isBlank x = false := by
    intro x present
    have image : Text.lowerAscii x ∈ (relativePath path).map Text.lowerAscii :=
      same ▸ List.mem_map_of_mem present
    rcases List.mem_map.mp image with ⟨y, inPath, equal⟩
    rw [← Text.isBlank_lowerAscii (asciiText x present), ← equal,
      Text.isBlank_lowerAscii (asciiPath y inPath)]
    exact printable_path valid (suffix inPath)
  have noMark : ¬ scopeMark <+: text := by
    rintro ⟨tail, shape⟩
    rw [← shape, head] at same
    simp only [scopeMark, List.cons_append, List.map_cons, List.cons_eq_cons] at same
    have first : Text.lowerAscii ':' = Text.lowerAscii c := same.1
    exact Text.lowerAscii_ne_colon (asciiPath c (head ▸ List.mem_cons_self)) upper
      (first.symm.trans (by decide))
  rw [Text.trim_of_printable printable, Text.afterPrefix?_eq_none noMark, Option.getD_none]

end Path

theorem controllerOfClass?_stem {className controller : Text}
    (converts : controllerOfClass? className = some controller) :
    ∃ stem, className.trim.dropWhile (· == ':') = stem ++ controllerSuffix ∧
      isConstantPath (stem ++ controllerSuffix) = true ∧
      ¬ scopeMark <+: stem ++ controllerSuffix ∧ stem ≠ [] ∧ ¬ scopeMark <:+ stem ∧
      controller = underscore stem := by
  rcases Option.bind_eq_some_iff.mp converts with ⟨_, constant, converts⟩
  rcases Option.bind_eq_some_iff.mp converts with ⟨stem, ended, converts⟩
  rcases Option.bind_eq_some_iff.mp converts with ⟨_, kept, last⟩
  have shape := Text.append_of_beforeSuffix? ended
  refine ⟨stem, shape, ?_, ?_, ?_, ?_, (Option.some.inj last).symm⟩
  · have named : isConstantName (stem ++ controllerSuffix) = true := by
      rw [← shape]
      simpa [guard] using constant
    have noEnd : Text.beforeSuffix? (stem ++ controllerSuffix) ['\n'] = none := by
      have other : ¬ ['\n'] <:+ stem ++ controllerSuffix := by
        rintro ⟨front, ends⟩
        have last : (stem ++ controllerSuffix).getLast? = some '\n' := by
          rw [← ends, List.getLast?_concat]
        rw [List.getLast?_append] at last
        cases last
      simpa [Text.beforeSuffix?] using other
    rwa [isConstantName, noEnd] at named
  · rintro ⟨tail, starts⟩
    have bare := List.head?_dropWhile_not (· == ':') className.trim
    rw [shape, ← starts] at bare
    simp [scopeMark] at bare
  · rintro rfl
    cases kept
  · intro ends
    have refused : ¬ (!stem.isEmpty && !scopeMark.isSuffixOf stem) = true := by
      simp [List.isSuffixOf_iff_suffix.mpr ends]
    rw [guard, if_neg refused] at kept
    cases kept

theorem controllerOfClass?_shape {className controller : Text}
    (valid : isConstantPath className = true)
    (converts : controllerOfClass? className = some controller) :
    ∃ stem, relativePath className = stem ++ controllerSuffix ∧ stem ≠ [] ∧
      controller = underscore stem := by
  rcases controllerOfClass?_stem converts with ⟨stem, shape, _, _, nonempty, _, same⟩
  rw [trim_path valid, dropWhile_path valid] at shape
  exact ⟨stem, shape, nonempty, same⟩

/-- No two names of a table differ only by case. -/
def ContainerTable.CaseDistinct (table : ContainerTable) : Prop :=
  ∀ first ∈ table, ∀ second ∈ table,
    first.qualifiedName.lower = second.qualifiedName.lower →
      first.qualifiedName = second.qualifiedName

instance (table : ContainerTable) : Decidable table.CaseDistinct :=
  List.decidableBAll (fun first : Container => ∀ second ∈ table,
    first.qualifiedName.lower = second.qualifiedName.lower →
      first.qualifiedName = second.qualifiedName) table

theorem ContainerTable.lookup?_of_bare (table : ContainerTable) {name bare : Text}
    (read : (name.trim.afterPrefix? scopeMark).getD name.trim = bare) (nonempty : bare ≠ []) :
    table.lookup? name =
      (table.get? bare <|> table.find? fun entry => Text.lower entry.qualifiedName == bare.lower) := by
  have some_name : ¬ bare.isEmpty = true := by simpa using nonempty
  simp only [lookup?, read, some_name]
  rfl

theorem ContainerTable.lookup?_eq_find? {table : ContainerTable} (distinct : table.CaseDistinct)
    {name bare : Text} (read : (name.trim.afterPrefix? scopeMark).getD name.trim = bare)
    (nonempty : bare ≠ []) :
    table.lookup? name = table.find? fun entry => Text.lower entry.qualifiedName == bare.lower := by
  rw [table.lookup?_of_bare read nonempty]
  cases exact : table.get? bare with
  | none => rfl
  | some entry =>
    obtain ⟨member, named⟩ : entry ∈ table ∧ entry.qualifiedName = bare :=
      ⟨List.mem_of_find?_eq_some exact, by simpa using List.find?_some exact⟩
    have same : ∀ other ∈ table, (other.qualifiedName == bare) =
        (Text.lower other.qualifiedName == bare.lower) := by
      intro other present
      rw [Bool.eq_iff_iff, beq_iff_eq, beq_iff_eq]
      constructor
      · intro equal
        rw [equal]
      · intro equal
        rw [← named] at equal ⊢
        exact distinct other present entry member equal
    have hit : some entry = table.find? fun other => Text.lower other.qualifiedName == bare.lower := by
      rw [← exact, get?]
      exact List.find?_congr same
    exact hit

namespace IsPlainController

variable {className controller : Text} (plain : IsPlainController className)
  (converts : controllerOfClass? className = some controller)

include plain converts

theorem controllerClassName_ascii :
    (controllerClassName controller).map Text.lowerAscii =
        (relativePath className).map Text.lowerAscii ∧
      (controllerClassName controller).IsAscii ∧ controller ≠ [] := by
  rcases controllerOfClass?_shape plain.path converts with ⟨stem, shape, nonempty, rfl⟩
  have inClass : stem ⊆ className := by
    intro c present
    apply (relativePath_suffix className).subset
    rw [shape]
    exact List.mem_append_left _ present
  have absent {c : Char} (notColon : c ≠ ':') (notWord : Text.isWord c = false) : c ∉ stem :=
    fun present => not_mem_path plain.path notColon notWord (inClass present)
  have ascii := plain.ascii.of_subset inClass
  obtain ⟨spelling, small⟩ := underscore_ascii ascii (absent (by decide) (by decide))
  rcases camelize_ascii small with ⟨camel, smallCamel⟩
  have noUnderscore : '_' ∉ stem := fun present => plain.noUnderscore (inClass present)
  have same := spelling.trans (spelled_of_plain (absent (by decide) (by decide)) noUnderscore)
  refine ⟨?_, smallCamel.append (by decide), ?_⟩
  · calc
      (controllerClassName (underscore stem)).map Text.lowerAscii =
          (camelize (underscore stem)).map Text.lowerAscii ++
            controllerSuffix.map Text.lowerAscii := List.map_append
      _ = stem.map Text.lowerAscii ++ controllerSuffix.map Text.lowerAscii := by rw [camel, same]
      _ = (relativePath className).map Text.lowerAscii := by rw [shape, List.map_append]
  · intro empty
    rw [empty] at same
    exact nonempty (List.map_eq_nil_iff.mp same.symm)

theorem lookup?_controllerClassName {table : ContainerTable} (distinct : table.CaseDistinct) :
    table.lookup? (controllerClassName controller) = table.lookup? className := by
  rcases plain.controllerClassName_ascii converts with ⟨same, ascii, _⟩
  have read := bare_of_same_case plain.path plain.ascii ascii same
  have readOld : (className.trim.afterPrefix? scopeMark).getD className.trim =
      relativePath className := by
    rw [trim_path plain.path, relativePath]
  have asciiPath := plain.ascii.of_subset (relativePath_suffix className).subset
  have nonemptyOld : relativePath className ≠ [] := by
    rcases relativePath_spec plain.path with ⟨constant, relative, _⟩
    rcases head_of_isConstantPath relative constant with ⟨c, rest, head, _⟩
    simp [head]
  have nonempty : controllerClassName controller ≠ [] :=
    List.append_ne_nil_of_right_ne_nil _ (by decide)
  have lower : (controllerClassName controller).lower = (relativePath className).lower := by
    rw [Text.lower_ascii ascii, Text.lower_ascii asciiPath, same]
  calc
    table.lookup? (controllerClassName controller) =
        table.find? fun entry =>
          Text.lower entry.qualifiedName == (controllerClassName controller).lower :=
      ContainerTable.lookup?_eq_find? distinct read nonempty
    _ = table.find? fun entry =>
          Text.lower entry.qualifiedName == (relativePath className).lower := by rw [lower]
    _ = table.lookup? className :=
      (ContainerTable.lookup?_eq_find? distinct readOld nonemptyOld).symm

end IsPlainController

end RouteReport
