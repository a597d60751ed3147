import RouteReport.FileTree.Path
import RouteReport.Proofs.TextLaws

namespace RouteReport.Path

/-- A name without slashes that leads neither nowhere nor up. -/
structure IsComponent (name : Text) : Prop where
  nonempty : name ≠ []
  noSlash : '/' ∉ name
  notHere : name ≠ ['.']
  notUp : name ≠ ['.', '.']

instance (name : Text) : Decidable (IsComponent name) :=
  decidable_of_iff (name ≠ [] ∧ '/' ∉ name ∧ name ≠ ['.'] ∧ name ≠ ['.', '.'])
    ⟨fun ⟨nonempty, noSlash, notHere, notUp⟩ => ⟨nonempty, noSlash, notHere, notUp⟩,
      fun proper => ⟨proper.nonempty, proper.noSlash, proper.notHere, proper.notUp⟩⟩

variable {name : Text} {way : List Text}

theorem IsComponent.isAbsolute_eq (proper : IsComponent name) (rest : Text) :
    isAbsolute (name ++ rest) = false := by
  cases name with
  | nil => exact absurd rfl proper.nonempty
  | cons c others =>
    have first : c ≠ '/' := fun same => proper.noSlash (same ▸ List.mem_cons_self)
    simpa [isAbsolute] using first

theorem rootOf_of_relative {path : Text} (relative : isAbsolute path = false) : rootOf path = [] := by
  cases path with
  | nil => rfl
  | cons c rest =>
    have first : c ≠ '/' := by simpa [isAbsolute] using relative
    simp [rootOf, first]

theorem isAbsolute_join (proper : ∀ name ∈ way, IsComponent name) :
    isAbsolute (Text.join ['/'] way) = false := by
  cases way with
  | nil => rfl
  | cons name rest =>
    have first := proper name List.mem_cons_self
    cases rest with
    | nil => simpa [Text.join] using first.isAbsolute_eq []
    | cons next others =>
      rw [Text.join, List.append_assoc]
      exact first.isAbsolute_eq _

theorem foldl_resolveStep (isRooted : Bool) (done : List Text)
    (proper : ∀ name ∈ way, IsComponent name) :
    way.foldl (resolveStep isRooted) done = way.reverse ++ done := by
  induction way generalizing done with
  | nil => rfl
  | cons name rest ih =>
    obtain ⟨first, others⟩ := List.forall_mem_cons.mp proper
    have kept : resolveStep isRooted done name = name :: done := by
      simp [resolveStep, first.nonempty, first.notHere, first.notUp]
    rw [List.foldl_cons, kept, ih (name :: done) others]
    simp

theorem normalize_join (nonempty : way ≠ []) (proper : ∀ name ∈ way, IsComponent name) :
    normalize (Text.join ['/'] way) = Text.join ['/'] way := by
  have relative := isAbsolute_join proper
  have pieces : (Text.join ['/'] way).splitOn '/' = way :=
    Text.splitOn_join '/' way nonempty fun name member => (proper name member).noSlash
  have resolved : components (Text.join ['/'] way) = way := by
    rw [components, pieces, foldl_resolveStep _ [] proper]
    simp
  have filled : Text.join ['/'] way ≠ [] := by
    intro empty
    rw [empty] at pieces
    have only : way = [[]] := pieces.symm
    exact (proper [] (only ▸ List.mem_cons_self)).nonempty rfl
  rw [normalize, rootOf_of_relative relative, resolved, List.nil_append, if_neg]
  simpa using filled

theorem join_component (directory : Text) (proper : IsComponent name) :
    join directory name = asDirectory directory ++ name := by
  have relative : isAbsolute name = false := by simpa using proper.isAbsolute_eq []
  have place : isAbsolute [] = false := rfl
  rw [asDirectory, join, join, relative, place]
  by_cases ended : (directory.isEmpty || directory.getLast? = some '/') = true
  · simp [ended]
  · simp [ended]

theorem asDirectory_join (directory : Text) (proper : IsComponent name) :
    asDirectory (join directory name) = asDirectory directory ++ name ++ ['/'] := by
  rw [join_component directory proper]
  generalize asDirectory directory = front
  have nonempty : front ++ name ≠ [] := List.append_ne_nil_of_right_ne_nil _ proper.nonempty
  have last : (front ++ name).getLast? ≠ some '/' := by
    rw [List.getLast?_append_of_ne_nil _ proper.nonempty]
    exact fun ended => proper.noSlash (List.mem_of_getLast? ended)
  have notEnded : ((front ++ name).isEmpty || (front ++ name).getLast? = some '/') = false := by
    simp only [Bool.or_eq_false_iff, decide_eq_false_iff_not]
    exact ⟨by simpa using nonempty, last⟩
  have place : isAbsolute [] = false := rfl
  rw [asDirectory, join, place, notEnded]
  rfl

theorem join_foldl (path : Text) (proper : ∀ folder ∈ way, IsComponent folder)
    (ends : IsComponent name) :
    join (way.foldl join path) name = asDirectory path ++ Text.join ['/'] (way ++ [name]) := by
  induction way generalizing path with
  | nil => exact join_component path ends
  | cons folder rest ih =>
    obtain ⟨first, others⟩ := List.forall_mem_cons.mp proper
    obtain ⟨next, more, shape⟩ : ∃ next more, rest ++ [name] = next :: more :=
      List.exists_cons_of_ne_nil (by simp)
    rw [List.foldl_cons, ih (join path folder) others, asDirectory_join path first, List.cons_append,
      shape, Text.join]
    simp

end RouteReport.Path
