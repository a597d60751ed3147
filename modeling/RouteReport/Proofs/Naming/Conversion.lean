import RouteReport.Proofs.Naming.Respelling

namespace RouteReport

variable {path : Text}

theorem exists_segment (path : Text) : ∃ front segment, path = front ++ segment ∧
    (scopeSegments path).getLast? = some segment ∧ (front = [] ∨ scopeMark <:+ front) := by
  have last := List.getLast?_eq_some_getLast (scopeSegments_ne_nil path)
  obtain ⟨outer, segments⟩ := List.getLast?_eq_some_iff.mp last
  obtain ⟨front, ending, shape⟩ := Text.exists_join_concat scopeMark outer
  refine ⟨front, _, ?_, last, ending⟩
  rw [← shape, ← segments, join_scopeSegments]

theorem isControllerPath_iff_longer (constant : isConstantPath path = true) :
    IsControllerPath path ↔ controllerSuffix <:+ path ∧
      ∀ segment, (scopeSegments path).getLast? = some segment →
        controllerSuffix.length < segment.length := by
  constructor
  · intro named
    refine ⟨named.suffix, ?_⟩
    obtain ⟨base, last, nonempty⟩ := named.ends
    intro segment ending
    have some_base := List.length_pos_iff.mpr nonempty
    rw [← Option.some.inj (last.symm.trans ending), List.length_append]
    omega
  · rintro ⟨ends, longer⟩
    obtain ⟨front, segment, shape, last, _⟩ := exists_segment path
    have inPath : segment <:+ path := ⟨front, shape.symm⟩
    have long := longer segment last
    obtain ⟨base, rfl⟩ := List.suffix_of_suffix_length_le ends inPath long.le
    refine ⟨constant, base, last, ?_⟩
    rintro rfl
    exact absurd long (by simp)

theorem converts_iff (constant : isConstantPath path = true) :
    (controllerOfClass? path).isSome = true ↔ IsControllerPath path := by
  constructor
  · intro converted
    obtain ⟨controller, converts⟩ := Option.isSome_iff_exists.mp converted
    obtain ⟨stem, shape, _, _, nonempty, noMark, _⟩ := controllerOfClass?_stem converts
    rw [trim_path constant, dropWhile_path constant] at shape
    obtain ⟨front, segment, parts, last, marked⟩ := exists_segment (relativePath path)
    have other : front ≠ stem := by
      rintro rfl
      exact marked.elim nonempty noMark
    rw [getLast?_scopeSegments_relativePath] at last
    rcases List.append_eq_append_iff.mp (parts.symm.trans shape) with
      ⟨base, inStem, rfl⟩ | ⟨between, inFront, inSuffix⟩
    · refine ⟨constant, base, last, ?_⟩
      rintro rfl
      exact other (by simpa using inStem.symm)
    · -- the mark in front of the last segment would stand within the suffix
      have some_between : between ≠ [] := by
        rintro rfl
        exact other (by simpa using inFront)
      have ends := marked.resolve_left (by simp [inFront, nonempty])
      obtain ⟨before, whole⟩ := ends
      have colon : between.getLast? = some ':' := by
        rw [← List.getLast?_append_of_ne_nil stem some_between, ← inFront, ← whole,
          List.getLast?_append]
        rfl
      have inside : ':' ∈ controllerSuffix :=
        inSuffix ▸ List.mem_append_left segment (List.mem_of_getLast? colon)
      exact absurd inside (by decide)
  · intro named
    obtain ⟨stem, _, _, _, found⟩ := named.respelled
    obtain ⟨controller, converts, _⟩ := Option.map_eq_some_iff.mp found
    rw [converts, Option.isSome_some]

/-- A class name within ASCII, without underscores and without a mark in front, is converted just when it
ends in `Controller` and its last segment is longer, and the class name of the controller is then the same
but for the case of its letters. -/
theorem conversion_keeps_all_but_case (constant : isConstantPath path = true)
    (relative : ¬ scopeMark <+: path) (ascii : path.IsAscii) (noUnderscore : '_' ∉ path) :
    ((controllerOfClass? path).isSome = true ↔ controllerSuffix <:+ path ∧
        ∀ segment, (scopeSegments path).getLast? = some segment →
          controllerSuffix.length < segment.length) ∧
      ∀ controller, controllerOfClass? path = some controller →
        (controllerClassName controller).map Text.lowerAscii = path.map Text.lowerAscii := by
  constructor
  · rw [converts_iff constant, isControllerPath_iff_longer constant]
  · intro controller converts
    have plain : IsPlainController path :=
      ⟨ascii, noUnderscore, constant, Option.isSome_iff_exists.mpr ⟨controller, converts⟩⟩
    have same := (plain.controllerClassName_ascii converts).1
    rwa [relativePath, Text.afterPrefix?_eq_none relative, Option.getD_none] at same

def acronymName : Text := "API::V2::HTMLPages2PDFController".toList

theorem conversion_of_acronyms :
    isConstantPath acronymName = true ∧ ∃ controller, controllerOfClass? acronymName = some controller ∧
      controllerClassName controller ≠ acronymName ∧
      (controllerClassName controller).map Text.lowerAscii = acronymName.map Text.lowerAscii := by
  have constant : isConstantPath acronymName = true := by decide
  obtain ⟨converted, same⟩ := conversion_keeps_all_but_case constant (by decide) (by decide) (by decide)
  have long : ∀ segment, (scopeSegments acronymName).getLast? = some segment →
      controllerSuffix.length < segment.length := by
    have last : (scopeSegments acronymName).getLast? = some "HTMLPages2PDFController".toList := by
      decide
    intro segment ending
    rw [← Option.some.inj (last.symm.trans ending)]
    decide
  obtain ⟨controller, converts⟩ := Option.isSome_iff_exists.mp (converted.mpr ⟨by decide, long⟩)
  refine ⟨constant, controller, converts, ?_, same controller converts⟩
  have spelled : (controllerOfClass? acronymName).map controllerClassName =
      some "Api::V2::HtmlPages2PdfController".toList := by
    decide +kernel
  rw [converts, Option.map_some, Option.some.injEq] at spelled
  rw [spelled]
  decide

end RouteReport
