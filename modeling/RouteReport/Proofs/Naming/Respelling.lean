import Mathlib.Data.Option.Basic
import RouteReport.Proofs.Naming.ControllerNames
import RouteReport.Proofs.Naming.Marks

namespace RouteReport

/-- The class name spelled again from the name of its controller. -/
def respelled? (className : Text) : Option Text :=
  (controllerOfClass? className).map controllerClassName

theorem separateWords_cons (c : Char) (rest : Text) : ∃ tail, separateWords (c :: rest) = c :: tail := by
  cases rest with
  | nil => exact ⟨[], rfl⟩
  | cons next others =>
    rw [separateWords]
    split <;> exact ⟨_, rfl⟩

theorem Text.splitOn_cons {c separator : Char} (other : c ≠ separator) (rest : Text) :
    ∃ piece pieces, rest.splitOn separator = piece :: pieces ∧
      Text.splitOn (c :: rest) separator = (c :: piece) :: pieces := by
  rcases List.exists_cons_of_ne_nil (Text.splitOn_ne_nil rest separator) with ⟨piece, pieces, shape⟩
  exact ⟨piece, pieces, shape, by simp [Text.splitOn, other, shape]⟩

theorem underscore_cons {c : Char} (upper : Text.isAsciiUpper c = true) (rest : Text) :
    ∃ tail, underscore (c :: rest) = Text.lowerAscii c :: tail := by
  have bounds := Text.toNat_of_isAsciiUpper upper
  have notDash : c ≠ '-' := by
    rintro rfl
    cases upper
  have notColon : ':' ≠ c := by
    rintro rfl
    cases upper
  obtain ⟨tail, words⟩ := separateWords_cons c rest
  have small : c.toNat < 128 := by omega
  simp [underscore, words, notDash, notColon, Text.replaceAll, scopeMark, Text.lower, Text.lowerAfter,
    Text.lowerBetween, small, Text.lowerAscii]

theorem camelize_cons {c : Char} (upper : Text.isAsciiUpper c = true) (rest : Text) :
    ∃ tail, camelize (Text.lowerAscii c :: rest) = c :: tail := by
  have bounds := Text.toNat_of_isAsciiUpper upper
  obtain ⟨notSlash, notUnderscore, title⟩ : Text.lowerAscii c ≠ '/' ∧ Text.lowerAscii c ≠ '_' ∧
      Text.titleChar (Text.lowerAscii c) = [c] :=
    Text.forall_ascii (fun c => Text.isAsciiUpper c = true → Text.lowerAscii c ≠ '/' ∧
      Text.lowerAscii c ≠ '_' ∧ Text.titleChar (Text.lowerAscii c) = [c])
      (by decide) (by omega) upper
  obtain ⟨segment, segments, _, cut⟩ := Text.splitOn_cons notSlash rest
  obtain ⟨word, words, _, inner⟩ := Text.splitOn_cons notUnderscore segment
  cases segments <;>
    simp [camelize, cut, camelizeSegment, inner, Text.capitalize, title, Text.join]

theorem controllerClassName_underscore {stem : Text}
    (constant : isConstantPath (stem ++ controllerSuffix) = true)
    (relative : ¬ scopeMark <+: stem ++ controllerSuffix) (nonempty : stem ≠ []) :
    underscore stem ≠ [] ∧
      ∃ c tail, controllerClassName (underscore stem) = c :: tail ∧ Text.isAsciiUpper c = true := by
  rcases List.exists_cons_of_ne_nil nonempty with ⟨first, rest, rfl⟩
  rcases head_of_isConstantPath relative constant with ⟨c, others, shape, upper⟩
  have same : first = c := (List.cons_eq_cons.mp shape).1
  subst same
  obtain ⟨small, snake⟩ := underscore_cons upper rest
  obtain ⟨camel, shape⟩ := camelize_cons upper small
  refine ⟨by simp [snake], first, camel ++ controllerSuffix, ?_, upper⟩
  rw [controllerClassName, snake, shape, List.cons_append]

section Respelled

variable {className spelling : Text} (found : respelled? className = some spelling)

include found

theorem bare_of_respelled : (spelling.trim.afterPrefix? scopeMark).getD spelling.trim = spelling := by
  obtain ⟨controller, converts, rfl⟩ := Option.map_eq_some_iff.mp found
  obtain ⟨stem, _, constant, relative, nonempty, _, rfl⟩ := controllerOfClass?_stem converts
  obtain ⟨_, c, tail, shape, upper⟩ := controllerClassName_underscore constant relative nonempty
  have noMark : ¬ scopeMark <+: controllerClassName (underscore stem) := by
    rw [shape]
    intro starts
    have colon : ':' = c := (List.cons_prefix_cons.mp starts).1
    rw [← colon] at upper
    cases upper
  have trimmed : (controllerClassName (underscore stem)).trim = controllerClassName (underscore stem) := by
    apply Text.trim_of_ends
    · intro first head
      rw [shape, List.head?_cons, Option.some.injEq] at head
      exact isBlank_of_isWord (isWord_of_isAsciiUpper (head ▸ upper))
    · intro last ending
      rw [controllerClassName, List.getLast?_append] at ending
      cases ending
      rfl
  rw [trimmed, Text.afterPrefix?_eq_none noMark, Option.getD_none]

theorem ContainerTable.lookup?_respelled (table : ContainerTable) :
    table.lookup? spelling =
      (table.get? spelling <|>
        table.find? fun entry => Text.lower entry.qualifiedName == spelling.lower) := by
  apply table.lookup?_of_bare (bare_of_respelled found)
  obtain ⟨controller, _, rfl⟩ := Option.map_eq_some_iff.mp found
  exact List.append_ne_nil_of_right_ne_nil _ (by decide)

theorem underscore_not_mem_respelled : '_' ∉ spelling := by
  obtain ⟨controller, _, rfl⟩ := Option.map_eq_some_iff.mp found
  exact underscore_not_mem_controllerClassName controller

theorem count_colon_respelled : spelling.count ':' ≤ className.count ':' := by
  obtain ⟨controller, converts, rfl⟩ := Option.map_eq_some_iff.mp found
  obtain ⟨stem, shape, constant, _, _, _, rfl⟩ := controllerOfClass?_stem converts
  have noSlash : stem.count '/' = 0 := by
    apply List.count_eq_zero.mpr
    intro present
    exact not_mem_path constant (by decide) (by decide) (List.mem_append_left _ present)
  have inside : List.Sublist (stem ++ controllerSuffix) className := by
    rw [← shape]
    exact (List.dropWhile_suffix _).sublist.trans (Text.trim_sublist className)
  calc
    (controllerClassName (underscore stem)).count ':' =
        colonWeight (underscore stem) + controllerSuffix.count ':' := by
      rw [controllerClassName, List.count_append, count_colon_camelize]
    _ = (stem ++ controllerSuffix).count ':' := by
      rw [colonWeight_underscore, colonWeight, noSlash, List.count_append]
      rfl
    _ ≤ className.count ':' := inside.count_le ':'

end Respelled

/-- A constant path whose last segment ends in `Controller`, with something before. -/
structure IsControllerPath (className : Text) : Prop where
  path : isConstantPath className = true
  ends : ∃ base, (scopeSegments className).getLast? = some (base ++ controllerSuffix) ∧ base ≠ []

theorem Text.exists_join_concat (separator : Text) (pieces : List Text) :
    ∃ front, (front = [] ∨ separator <:+ front) ∧
      ∀ last, Text.join separator (pieces ++ [last]) = front ++ last := by
  induction pieces with
  | nil => exact ⟨[], .inl rfl, fun _ => rfl⟩
  | cons first rest ih =>
    obtain ⟨front, ending, shape⟩ := ih
    refine ⟨first ++ separator ++ front, .inr ?_, fun last => ?_⟩
    · rcases ending with rfl | ⟨inner, rfl⟩
      · simp
      · exact ⟨first ++ separator ++ inner, List.append_assoc ..⟩
    · rw [List.append_assoc, ← shape]
      cases rest <;> rfl

theorem getLast?_scopeSegments_relativePath (path : Text) :
    (scopeSegments (relativePath path)).getLast? = (scopeSegments path).getLast? := by
  by_cases absolute : scopeMark <+: path
  · obtain ⟨tail, rfl⟩ := absolute
    have segments : scopeSegments (scopeMark ++ tail) = [] :: scopeSegments tail := rfl
    rw [relativePath, Text.afterPrefix?_append, Option.getD_some, segments,
      List.getLast?_cons_of_ne_nil (scopeSegments_ne_nil tail)]
  · rw [relativePath, Text.afterPrefix?_eq_none absolute, Option.getD_none]

namespace IsControllerPath

variable {className : Text} (named : IsControllerPath className)

include named

theorem stem : ∃ stem, relativePath className = stem ++ controllerSuffix ∧ stem ≠ [] ∧
    ¬ scopeMark <:+ stem := by
  obtain ⟨base, last, nonempty⟩ := named.ends
  rw [← getLast?_scopeSegments_relativePath] at last
  obtain ⟨outer, segments⟩ := List.getLast?_eq_some_iff.mp last
  obtain ⟨front, _, shape⟩ := Text.exists_join_concat scopeMark outer
  obtain ⟨constant, relative, _⟩ := relativePath_spec named.path
  have valid := (isConstantPath_iff_segments relative).mp constant (base ++ controllerSuffix)
    (by simp [segments])
  refine ⟨front ++ base, ?_, List.append_ne_nil_of_right_ne_nil _ nonempty, ?_⟩
  · rw [← join_scopeSegments (relativePath className), segments, shape, List.append_assoc]
  · intro ends
    have colon : ':' ∈ base := by
      obtain ⟨before, whole⟩ := ends
      have last : (before ++ scopeMark).getLast? = base.getLast? := by
        rw [whole, List.getLast?_append_of_ne_nil _ nonempty]
      rw [List.getLast?_append] at last
      exact List.mem_of_getLast? last.symm
    have word := isWord_of_mem_segment valid (List.mem_append_left _ colon)
    rw [colon_not_word] at word
    cases word

theorem suffix : controllerSuffix <:+ className := by
  obtain ⟨stem, shape, _⟩ := named.stem
  exact (shape ▸ List.suffix_append stem controllerSuffix).trans (relativePath_suffix className)

theorem respelled : ∃ stem, relativePath className = stem ++ controllerSuffix ∧ stem ≠ [] ∧
    ¬ scopeMark <:+ stem ∧ respelled? className = some (controllerClassName (underscore stem)) := by
  obtain ⟨stem, shape, nonempty, noMark⟩ := named.stem
  have oneLine : '\n' ∉ relativePath className :=
    not_mem_path (relativePath_spec named.path).1 (by decide) (by decide)
  have constant : isConstantName (stem ++ controllerSuffix) = true := by
    rw [← shape]
    exact isConstantName_of_isConstantPath (relativePath_spec named.path).1 oneLine
  have kept : List.isSuffixOf scopeMark stem = false := by
    rw [Bool.eq_false_iff]
    exact fun ends => noMark (List.isSuffixOf_iff_suffix.mp ends)
  have converts : controllerOfClass? className = some (underscore stem) := by
    simp [controllerOfClass?, trim_path named.path, dropWhile_path named.path, shape, constant,
      Text.beforeSuffix?_append, nonempty, kept]
  exact ⟨stem, shape, nonempty, noMark, congrArg (Option.map controllerClassName) converts⟩

end IsControllerPath

end RouteReport
