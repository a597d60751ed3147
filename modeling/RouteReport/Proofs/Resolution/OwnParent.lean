import RouteReport.Proofs.Naming.ControllerNames
import RouteReport.Proofs.Resolution.Nearest

namespace RouteReport

namespace App

/-- The first class that a superclass clause names inside a class, as the index looks names up. -/
def namedFirst? (app : App) (superclass : Text) (container : Container) : Option Container :=
  (lexicalCandidates superclass container.namespaceName).findSome? app.index.class?

/-- The first class other than itself that a superclass clause names inside a class. -/
def outerNamed? (app : App) (superclass : Text) (container : Container) : Option Container :=
  (lexicalCandidates superclass container.namespaceName).findSome? fun candidate =>
    (app.index.class? candidate).filter (· ≠ container)

section Parent

variable {app : App} {container : Container} {superclass : Text}
  (written : container.superclass = some superclass)
  (plain : ∀ candidate ∈ lexicalCandidates superclass container.namespaceName,
    IsPlainController candidate)
  (distinct : ContainerTable.CaseDistinct app.index.classes)

include written plain distinct

theorem parent?_eq_namedFirst? : app.parent? container = app.namedFirst? superclass container := by
  have nonempty : ¬ superclass.isEmpty = true := by
    intro empty
    have nothing : superclass = [] := by simpa using empty
    have listed : [] ∈ lexicalCandidates superclass container.namespaceName := by
      rw [nothing]
      exact List.mem_append_right _ List.mem_cons_self
    exact absurd (plain [] listed).path (by decide)
  rw [parent?, written]
  simp only [nonempty, Bool.false_eq_true, ↓reduceIte]
  rw [namedFirst?, ← List.head?_filterMap, ← List.head?_filterMap]
  congr 1
  apply List.filterMap_congr
  intro candidate member
  have converted := plain candidate member
  rcases Option.isSome_iff_exists.mp converted.converts with ⟨controller, converts⟩
  rcases converted.controllerClassName_ascii converts with ⟨_, _, some_name⟩
  rw [converts, Option.bind_some, app.controllerAnywhere?_eq some_name]
  exact converted.lookup?_controllerClassName converts distinct

end Parent

theorem namedFirst?_of_outerNamed? {app : App} {superclass : Text} {container outer : Container}
    (meant : app.outerNamed? superclass container = some outer) :
    app.namedFirst? superclass container = some container ∨
      app.namedFirst? superclass container = some outer := by
  unfold outerNamed? at meant
  unfold namedFirst?
  generalize lexicalCandidates superclass container.namespaceName = candidates at meant ⊢
  induction candidates with
  | nil => cases meant
  | cons candidate rest ih =>
    rw [List.findSome?_cons] at meant ⊢
    cases named : app.index.class? candidate with
    | none =>
      rw [named] at meant
      exact ih meant
    | some found =>
      by_cases itself : found = container
      · exact .inl (congrArg some itself)
      · have first : found = outer := by
          simpa [named, itself, Option.filter_some] using meant
        exact .inr (congrArg some first)

end App

theorem method?_of_own_parent {app : App} {sources : List ParsedSource}
    (built : Index.Built sources app.index) {container : Container}
    (member : container ∈ app.index.classes) (own : app.parent? container = some container)
    (name base : Text) {m : Type → Type} [Monad m] [LawfulMonad m] :
    (app.lookups base : Lookups m).method? container name =
      pure (((app.definition? name container).map Search.found).getD
        (.cycle container.qualifiedName)) := by
  have listed : container.qualifiedName ∈ app.index.classes.names := List.mem_map_of_mem member
  have gone : container.qualifiedName ∉ app.index.classes.names.erase container.qualifiedName :=
    (built.distinct .classKind).not_mem_erase
  have first : (app.lookups base : Lookups m).method? container name =
      Search.along (app.lookups base) name app.index.classes.names container := rfl
  rw [first, along_of_mem listed, own]
  cases app.definition? name container with
  | some method => rfl
  | none => exact along_of_not_mem gone

/-- Where a superclass clause means an outer class, that class is the parent just when the class itself
is not the first that the clause names. If it is, it is its own parent, and the search from it never
comes to the outer class. -/
theorem outer_parent_iff {app : App} {sources : List ParsedSource}
    (built : Index.Built sources app.index) {container outer : Container} {superclass : Text}
    (member : container ∈ app.index.classes) (written : container.superclass = some superclass)
    (plain : ∀ candidate ∈ lexicalCandidates superclass container.namespaceName,
      IsPlainController candidate)
    (distinct : ContainerTable.CaseDistinct app.index.classes)
    (meant : app.outerNamed? superclass container = some outer) :
    (app.parent? container = some outer ↔
        app.namedFirst? superclass container ≠ some container) ∧
      (app.namedFirst? superclass container = some container →
        app.parent? container = some container ∧
          ∀ (name base : Text) (m : Type → Type) [Monad m] [LawfulMonad m],
            (app.lookups base : Lookups m).method? container name =
              pure (((app.definition? name container).map Search.found).getD
                (.cycle container.qualifiedName))) := by
  have parent := App.parent?_eq_namedFirst? written plain distinct
  have different : outer ≠ container := by
    rcases List.exists_of_findSome?_eq_some meant with ⟨candidate, _, hit⟩
    simpa using (Option.filter_eq_some_iff.mp hit).2
  refine ⟨⟨?_, ?_⟩, ?_⟩
  · intro found itself
    rw [parent, itself] at found
    exact different (Option.some.inj found).symm
  · intro other
    rw [parent]
    exact (App.namedFirst?_of_outerNamed? meant).resolve_left other
  · intro itself
    have own := parent.trans itself
    exact ⟨own, fun name base _ _ _ => method?_of_own_parent built member own name base⟩

def nestedSources : List ParsedSource :=
  [⟨"/app/controllers/application_controller.rb".toList,
      [sampleClass "ApplicationController" [sampleDef "authenticate"]]⟩,
    ⟨"/app/controllers/admin/application_controller.rb".toList, [
      .container [] .classKind (Utf8.encode "Admin::ApplicationController".toList)
        (some (Utf8.encode "ApplicationController".toList)) []]⟩]

def nestedApp : App := ⟨['/'], .ofSources nestedSources⟩

theorem built_nested : Index.Built nestedSources nestedApp.index :=
  Index.built_ofSources (by decide +kernel)

theorem nested_itself_first :
    ∃ container ∈ nestedApp.index.classes, ∃ outer ∈ nestedApp.index.classes,
      container.superclass = some "ApplicationController".toList ∧
        (∀ candidate ∈ lexicalCandidates "ApplicationController".toList container.namespaceName,
          IsPlainController candidate) ∧
        ContainerTable.CaseDistinct nestedApp.index.classes ∧
        nestedApp.namedFirst? "ApplicationController".toList container = some container ∧
        nestedApp.outerNamed? "ApplicationController".toList container = some outer ∧
        nestedApp.parent? container ≠ some outer ∧
        (outer.method? "authenticate".toList).isSome = true ∧
        nestedApp.definition? "authenticate".toList container = none := by
  decide +kernel

theorem outer_parent_of_nested :
    ∃ container ∈ nestedApp.index.classes, ∃ outer ∈ nestedApp.index.classes,
      nestedApp.outerNamed? "ApplicationController".toList container = some outer ∧
        (outer.method? "authenticate".toList).isSome = true ∧
        nestedApp.parent? container ≠ some outer ∧
        ∀ (m : Type → Type) [Monad m] [LawfulMonad m],
          (nestedApp.lookups : Lookups m).method? container "authenticate".toList =
            pure (.cycle container.qualifiedName) := by
  obtain ⟨container, member, outer, outerMember, written, plain, distinct, itself, meant, _,
    defined, missing⟩ := nested_itself_first
  obtain ⟨condition, alone⟩ :=
    outer_parent_iff built_nested member written plain distinct meant
  refine ⟨container, member, outer, outerMember, meant, defined, ?_, ?_⟩
  · intro found
    exact condition.mp found itself
  · intro m _ _
    rw [(alone itself).2, missing]
    rfl

theorem own_parent_where_outer_meant :
    ¬ ∀ (app : App) (sources : List ParsedSource) (container outer : Container) (superclass : Text),
      Index.Built sources app.index → container ∈ app.index.classes →
        container.superclass = some superclass →
        (∀ candidate ∈ lexicalCandidates superclass container.namespaceName,
          IsPlainController candidate) →
        ContainerTable.CaseDistinct app.index.classes →
        app.namedFirst? superclass container = some container →
        app.outerNamed? superclass container = some outer →
        app.parent? container = some outer := by
  intro always
  obtain ⟨container, member, outer, _, written, plain, distinct, itself, meant, other, _⟩ :=
    nested_itself_first
  exact other (always nestedApp nestedSources container outer _ built_nested member written plain
    distinct itself meant)

end RouteReport
