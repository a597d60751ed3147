import Mathlib.Data.Option.Basic
import RouteReport.Proofs.Naming.Capitals
import RouteReport.Proofs.Resolution.OwnParent

/-! The class that a superclass clause names exactly, and the class that is taken for it. Every
candidate is looked up under its name spelled again, so the named class is found only if its own
spelling leads back to it. -/

namespace RouteReport

section Candidates

theorem count_colon_namespaceOf {name outer : Text}
    (around : outer ∈ enclosingScopes (namespaceOf name)) :
    (namespaceOf name).count ':' < name.count ':' := by
  have inner : namespaceOf name ≠ [] := by
    intro empty
    rw [empty, enclosingScopes] at around
    cases around
  cases found : name.cutLast? scopeMark with
  | none => exact absurd (by simp [namespaceOf, found]) inner
  | some parts =>
    have whole := congrArg (List.count ':') (Text.append_of_cutLast? found)
    simp only [List.count_append, scopeMark, List.count_cons_self] at whole
    simp only [namespaceOf, found]
    omega

theorem count_colon_of_mem_enclosingScopes {outer scope : Text}
    (member : outer ∈ enclosingScopes scope) : outer.count ':' ≤ scope.count ':' := by
  fun_induction enclosingScopes scope with
  | case1 => cases member
  | case2 scope nonempty ih =>
    rcases List.mem_cons.mp member with rfl | later
    · exact Nat.le_refl _
    · exact (ih later).trans (count_colon_namespaceOf later).le

theorem pairwise_enclosingScopes (scope : Text) :
    (enclosingScopes scope).Pairwise fun inner outer => outer.count ':' < inner.count ':' := by
  fun_induction enclosingScopes scope with
  | case1 => exact List.Pairwise.nil
  | case2 scope nonempty ih =>
    refine List.pairwise_cons.mpr ⟨fun outer later => ?_, ih⟩
    exact (count_colon_of_mem_enclosingScopes later).trans_lt (count_colon_namespaceOf later)

theorem pairwise_lexicalCandidates (name scope : Text) :
    (lexicalCandidates name scope).Pairwise fun inner outer => outer.count ':' < inner.count ':' := by
  cases absolute : name.trim.afterPrefix? scopeMark with
  | some rest =>
    simp only [lexicalCandidates, absolute]
    exact List.pairwise_singleton _ _
  | none =>
    simp only [lexicalCandidates, absolute]
    refine List.pairwise_append.mpr ⟨?_, List.pairwise_singleton _ _, ?_⟩
    · refine List.pairwise_map.mpr ((pairwise_enclosingScopes scope).imp ?_)
      intro inner outer fewer
      simp only [List.count_append]
      omega
    · intro candidate listed last final
      obtain ⟨outer, _, rfl⟩ := List.mem_map.mp listed
      rw [List.mem_singleton.mp final]
      simp only [List.count_append, scopeMark, List.count_cons_self]
      omega

end Candidates

/-- The entry has the name that the candidate is looked up under, but for case. -/
def Container.AnswersTo (entry : Container) (candidate : Text) : Prop :=
  (respelled? candidate).map Text.lower = some (Text.lower entry.qualifiedName)

instance (entry : Container) (candidate : Text) : Decidable (entry.AnswersTo candidate) :=
  inferInstanceAs (Decidable (_ = _))

namespace Container.AnswersTo

variable {entry : Container} {candidate : Text} (near : entry.AnswersTo candidate)

include near

theorem count_spelling {mark : Char} (marked : mark ∈ Text.nameMarks) : ∃ spelling,
    respelled? candidate = some spelling ∧ entry.qualifiedName.count mark = spelling.count mark := by
  obtain ⟨spelling, found, same⟩ := Option.map_eq_some_iff.mp near
  refine ⟨spelling, found, ?_⟩
  rw [← Text.count_lower marked, ← same, Text.count_lower marked]

theorem underscore_not_mem : '_' ∉ entry.qualifiedName := by
  obtain ⟨spelling, found, same⟩ := near.count_spelling (show '_' ∈ Text.nameMarks by decide)
  rw [← List.count_eq_zero, same, List.count_eq_zero]
  exact underscore_not_mem_respelled found

theorem count_colon_le : entry.qualifiedName.count ':' ≤ candidate.count ':' := by
  obtain ⟨spelling, found, same⟩ := near.count_spelling (show ':' ∈ Text.nameMarks by decide)
  rw [same]
  exact count_colon_respelled found

end Container.AnswersTo

namespace App

def takenFor? (app : App) (candidate : Text) : Option Container :=
  (respelled? candidate).bind app.index.class?

/-- No class is taken for any of the candidates. -/
def Unanswered (app : App) (candidates : List Text) : Prop :=
  ∀ candidate ∈ candidates, ∀ entry ∈ app.index.classes, ¬ entry.AnswersTo candidate

instance (app : App) (candidates : List Text) : Decidable (app.Unanswered candidates) :=
  List.decidableBAll (fun candidate : Text => ∀ entry ∈ app.index.classes,
    ¬ entry.AnswersTo candidate) candidates

theorem takenFor?_eq {app : App} {candidate spelling : Text} (found : respelled? candidate = some spelling) :
    app.takenFor? candidate = (app.index.classes.get? spelling <|>
      app.index.classes.find? fun entry => Text.lower entry.qualifiedName == spelling.lower) := by
  rw [takenFor?, found, Option.bind_some]
  exact ContainerTable.lookup?_respelled found app.index.classes

theorem answersTo_of_takenFor? {app : App} {candidate : Text} {entry : Container}
    (taken : app.takenFor? candidate = some entry) :
    entry ∈ app.index.classes ∧ entry.AnswersTo candidate := by
  obtain ⟨spelling, found, hit⟩ := Option.bind_eq_some_iff.mp taken
  refine ⟨ContainerTable.lookup?_mem hit, ?_⟩
  rw [takenFor?_eq found] at taken
  rw [Container.AnswersTo, found, Option.map_some]
  congr 1
  cases exact : app.index.classes.get? spelling with
  | some other =>
    have same : other = entry := by simpa [exact] using taken
    rw [← same, (ContainerTable.mem_of_get? exact).2]
  | none =>
    have first : app.index.classes.find? (fun entry =>
        Text.lower entry.qualifiedName == spelling.lower) = some entry := by
      simpa [exact] using taken
    have lower := List.find?_some first
    exact (eq_of_beq lower).symm

theorem takenFor?_eq_none_iff {app : App} {candidate : Text} :
    app.takenFor? candidate = none ↔ ∀ entry ∈ app.index.classes, ¬ entry.AnswersTo candidate := by
  constructor
  · intro nothing entry member near
    obtain ⟨spelling, found, same⟩ := Option.map_eq_some_iff.mp near
    rw [takenFor?_eq found, Option.orElse_eq_none] at nothing
    have other := List.find?_eq_none.mp nothing.2 entry member
    exact other (beq_iff_eq.mpr same.symm)
  · intro far
    cases taken : app.takenFor? candidate with
    | none => rfl
    | some entry =>
      obtain ⟨member, near⟩ := answersTo_of_takenFor? taken
      exact absurd near (far entry member)

theorem findSome?_takenFor?_eq_none_iff {app : App} {candidates : List Text} :
    candidates.findSome? app.takenFor? = none ↔ app.Unanswered candidates := by
  simp only [List.findSome?_eq_none_iff, takenFor?_eq_none_iff, Unanswered]

theorem bind_controllerAnywhere? (app : App) (candidate : Text) :
    (controllerOfClass? candidate).bind app.controllerAnywhere? = app.takenFor? candidate := by
  rw [takenFor?, respelled?]
  cases converts : controllerOfClass? candidate with
  | none => rw [Option.bind_none, Option.map_none, Option.bind_none]
  | some controller =>
    obtain ⟨stem, _, constant, relative, some_stem, _, rfl⟩ := controllerOfClass?_stem converts
    have nonempty := (controllerClassName_underscore constant relative some_stem).1
    rw [Option.bind_some, Option.map_some, Option.bind_some, app.controllerAnywhere?_eq nonempty]

theorem parent?_eq_findSome? (app : App) {container : Container} {superclass : Text}
    (written : container.superclass = some superclass) (nonempty : superclass ≠ []) :
    app.parent? container =
      (lexicalCandidates superclass container.namespaceName).findSome? app.takenFor? := by
  have some_clause : ¬ superclass.isEmpty = true := by simpa using nonempty
  have each := funext app.bind_controllerAnywhere?
  rw [parent?, written]
  simp only [some_clause, Bool.false_eq_true, ↓reduceIte, each]

end App

theorem underscore_not_mem_of_parent? {app : App} {container parent : Container}
    (found : app.parent? container = some parent) : '_' ∉ parent.qualifiedName := by
  cases written : container.superclass with
  | none => simp [App.parent?, written] at found
  | some superclass =>
    by_cases empty : superclass = []
    · simp [App.parent?, written, empty] at found
    · rw [app.parent?_eq_findSome? written empty] at found
      obtain ⟨candidate, _, taken⟩ := List.exists_of_findSome?_eq_some found
      exact (App.answersTo_of_takenFor? taken).2.underscore_not_mem

theorem superclass_ne_nil {superclass scope className : Text}
    (candidate : className ∈ lexicalCandidates superclass scope) (named : IsControllerPath className) :
    superclass ≠ [] := by
  rintro rfl
  obtain ⟨front, ends⟩ := named.suffix
  have last : className.getLast? = some 'r' := by
    rw [← ends, List.getLast?_append]
    rfl
  have listed : className ∈ (enclosingScopes scope).map (· ++ scopeMark ++ []) ++ [[]] := candidate
  rcases List.mem_append.mp listed with inner | final
  · obtain ⟨outer, _, shape⟩ := List.mem_map.mp inner
    rw [← shape, List.append_nil, List.getLast?_append] at last
    cases last
  · rw [List.mem_singleton.mp final] at last
    cases last

theorem not_answersTo_of_outer {name scope className later : Text} {before after : List Text}
    {entry : Container} (candidates : lexicalCandidates name scope = before ++ className :: after)
    (named : entry.qualifiedName = className) (outer : later ∈ after) : ¬ entry.AnswersTo later := by
  intro near
  have order := pairwise_lexicalCandidates name scope
  rw [candidates] at order
  have fewer := (List.pairwise_cons.mp (List.pairwise_append.mp order).2.1).1 later outer
  have bound := near.count_colon_le
  rw [named] at bound
  omega

/-- Where a candidate of a superclass clause is exactly the name of a class, that class is the parent
just when the name is its own spelling, or the class is the first that has the spelling but for case
while none has the spelling itself. An earlier candidate that some class answers to comes first. No
class with an underscore in its name is ever a parent, and within ASCII the names that are their own
spelling are those without underscores whose capitals all start words. -/
theorem named_parent_iff {app : App} {container parent : Container} {superclass className : Text}
    {before after : List Text} (written : container.superclass = some superclass)
    (candidates : lexicalCandidates superclass container.namespaceName = before ++ className :: after)
    (named : IsControllerPath className)
    (indexed : app.index.classes.get? className = some parent) :
    (∀ (base : Text) (m : Type → Type) [Monad m] [LawfulMonad m],
        (app.lookups base : Lookups m).parent? container = pure (app.parent? container)) ∧
      (app.Unanswered before →
        (app.parent? container = some parent ↔ ∃ spelling, respelled? className = some spelling ∧
          (spelling = className ∨ app.index.classes.get? spelling = none ∧
            app.index.classes.find? (fun entry => Text.lower entry.qualifiedName == spelling.lower) =
              some parent))) ∧
      (¬ app.Unanswered before → ∃ earlier ∈ before, ∃ other, other.AnswersTo earlier ∧
        app.parent? container = some other) ∧
      (∀ other, app.parent? container = some other → '_' ∉ other.qualifiedName) ∧
      (className.IsAscii → (respelled? className = some className ↔
        ¬ scopeMark <+: className ∧ '_' ∉ className ∧ capitalsStartWords className = true)) := by
  have listed : className ∈ lexicalCandidates superclass container.namespaceName := by
    rw [candidates]
    exact List.mem_append_right before List.mem_cons_self
  have parentName := (ContainerTable.mem_of_get? indexed).2
  have search := app.parent?_eq_findSome? written (superclass_ne_nil listed named)
  refine ⟨fun base _ _ _ => app.lookups_parent? base container, ?_, ?_,
    fun other found => underscore_not_mem_of_parent? found, respelled_eq_self_iff named⟩
  · intro quiet
    have passed : before.findSome? app.takenFor? = none := App.findSome?_takenFor?_eq_none_iff.mpr quiet
    obtain ⟨_, _, _, _, found⟩ := named.respelled
    rw [search, candidates, List.findSome?_append, passed, Option.none_or, List.findSome?_cons]
    constructor
    · intro hit
      refine ⟨_, found, ?_⟩
      cases taken : app.takenFor? className with
      | none =>
        -- a candidate further out has fewer colons than the class, so it does not lead there
        rw [taken] at hit
        obtain ⟨later, outer, near⟩ := List.exists_of_findSome?_eq_some hit
        exact absurd (App.answersTo_of_takenFor? near).2
          (not_answersTo_of_outer candidates parentName outer)
      | some other =>
        have same : other = parent := by simpa [taken] using hit
        rw [App.takenFor?_eq found, Option.orElse_eq_some] at taken
        rcases taken with exact | ⟨missing, first⟩
        · left
          rw [← parentName, ← same]
          exact (ContainerTable.mem_of_get? exact).2.symm
        · exact .inr ⟨missing, same ▸ first⟩
    · rintro ⟨other, again, condition⟩
      have same := Option.some.inj (again.symm.trans found)
      subst same
      have taken : app.takenFor? className = some parent := by
        rw [App.takenFor?_eq found]
        rcases condition with rfl | ⟨missing, first⟩
        · rw [indexed]
          rfl
        · rw [missing, first]
          rfl
      rw [taken]
  · intro loud
    rw [← App.findSome?_takenFor?_eq_none_iff] at loud
    obtain ⟨other, hit⟩ := Option.ne_none_iff_exists'.mp loud
    obtain ⟨earlier, member, taken⟩ := List.exists_of_findSome?_eq_some hit
    refine ⟨earlier, member, other, (App.answersTo_of_takenFor? taken).2, ?_⟩
    rw [search, candidates, List.findSome?_append, hit, Option.some_or]

def versionedSources : List ParsedSource :=
  [⟨"/app/controllers/api/v1_1/base_controller.rb".toList,
      [sampleClass "Api::V1_1::BaseController" [sampleDef "authenticate"]]⟩,
    ⟨"/app/controllers/users_controller.rb".toList, [
      .container [] .classKind (Utf8.encode "UsersController".toList)
        (some (Utf8.encode "Api::V1_1::BaseController".toList)) []]⟩,
    ⟨"/app/controllers/application_controller.rb".toList, [sampleClass "ApplicationController" []]⟩,
    ⟨"/app/controllers/admin/pages_controller.rb".toList, [
      .container [] .classKind (Utf8.encode "Admin::PagesController".toList)
        (some (Utf8.encode "ApplicationController".toList)) []]⟩]

def versionedApp : App := ⟨['/'], .ofSources versionedSources⟩

theorem built_versioned : Index.Built versionedSources versionedApp.index :=
  Index.built_ofSources (by decide +kernel)

theorem versioned_outer :
    ∃ pages ∈ versionedApp.index.classes, ∃ application ∈ versionedApp.index.classes,
      pages.superclass = some "ApplicationController".toList ∧
        lexicalCandidates "ApplicationController".toList pages.namespaceName =
          ["Admin::ApplicationController".toList] ++ ["ApplicationController".toList] ∧
        versionedApp.index.classes.get? "ApplicationController".toList = some application ∧
        versionedApp.Unanswered ["Admin::ApplicationController".toList] ∧
        respelled? "ApplicationController".toList = some "ApplicationController".toList := by
  decide +kernel

theorem versioned_only :
    ∃ users ∈ versionedApp.index.classes, ∃ base ∈ versionedApp.index.classes,
      users.superclass = some "Api::V1_1::BaseController".toList ∧
        lexicalCandidates "Api::V1_1::BaseController".toList users.namespaceName =
          [] ++ ["Api::V1_1::BaseController".toList] ∧
        versionedApp.index.classes.get? "Api::V1_1::BaseController".toList = some base ∧
        users.qualifiedName = "UsersController".toList ∧
        '_' ∈ base.qualifiedName := by
  decide +kernel

theorem isControllerPath_application : IsControllerPath "ApplicationController".toList :=
  ⟨by decide, "Application".toList, by decide, by decide⟩

theorem isControllerPath_versioned : IsControllerPath "Api::V1_1::BaseController".toList :=
  ⟨by decide, "Base".toList, by decide, by decide⟩

theorem named_parent_of_versioned :
    (∃ pages ∈ versionedApp.index.classes, ∃ application ∈ versionedApp.index.classes,
      versionedApp.index.classes.get? "ApplicationController".toList = some application ∧
        versionedApp.parent? pages = some application) ∧
      ∃ users ∈ versionedApp.index.classes, ∃ base ∈ versionedApp.index.classes,
        versionedApp.index.classes.get? "Api::V1_1::BaseController".toList = some base ∧
          versionedApp.parent? users ≠ some base := by
  constructor
  · obtain ⟨pages, member, application, listed, written, candidates, indexed, quiet, spelling⟩ :=
      versioned_outer
    obtain ⟨_, condition, _, _, _⟩ :=
      named_parent_iff written candidates isControllerPath_application indexed
    exact ⟨pages, member, application, listed, indexed,
      (condition quiet).mpr ⟨_, spelling, .inl rfl⟩⟩
  · obtain ⟨users, member, base, listed, written, candidates, indexed, _, marked⟩ := versioned_only
    obtain ⟨_, _, _, unmarked, _⟩ :=
      named_parent_iff written candidates isControllerPath_versioned indexed
    exact ⟨users, member, base, listed, indexed, fun found => unmarked base found marked⟩

theorem named_class_not_parent :
    ¬ ∀ (app : App) (sources : List ParsedSource) (container parent : Container)
        (superclass className : Text) (before after : List Text),
      Index.Built sources app.index → container ∈ app.index.classes →
        container.superclass = some superclass →
        lexicalCandidates superclass container.namespaceName = before ++ className :: after →
        (∀ candidate ∈ before, app.index.classes.get? candidate = none) →
        app.index.classes.get? className = some parent → className ≠ container.qualifiedName →
        IsControllerPath className → app.parent? container = some parent := by
  intro always
  obtain ⟨users, member, base, _, written, candidates, indexed, other, marked⟩ := versioned_only
  have different : "Api::V1_1::BaseController".toList ≠ users.qualifiedName := by
    rw [other]
    decide
  have found := always versionedApp versionedSources users base _ _ _ _ built_versioned member written
    candidates (by simp) indexed different isControllerPath_versioned
  exact underscore_not_mem_of_parent? found marked

end RouteReport
