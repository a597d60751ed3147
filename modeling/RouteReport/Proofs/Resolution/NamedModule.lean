import RouteReport.Proofs.Index.Lookup
import RouteReport.Proofs.Resolution.NamedParent

namespace RouteReport

namespace App

/-- The module of the first candidate that is exactly the name of one. -/
def namedModule? (app : App) (name scope : Text) : Option Container :=
  (lexicalCandidates name scope).findSome? app.index.modules.get?

def isNoModule (app : App) (candidate : Text) : Bool := (app.index.modules.get? candidate).isNone

/-- The candidates before the first that is exactly the name of a module, or all if none is. -/
def innerCandidates (app : App) (name scope : Text) : List Text :=
  (lexicalCandidates name scope).takeWhile app.isNoModule

/-- No module has the name of an inner candidate but for case. -/
def Unshadowed (app : App) (name scope : Text) : Prop :=
  ∀ candidate ∈ app.innerCandidates name scope, ∀ entry ∈ app.index.modules,
    Text.lower entry.qualifiedName ≠ candidate.lower

instance (app : App) (name scope : Text) : Decidable (app.Unshadowed name scope) :=
  List.decidableBAll (fun candidate : Text => ∀ entry ∈ app.index.modules,
    Text.lower entry.qualifiedName ≠ candidate.lower) (app.innerCandidates name scope)

variable {app : App} {name scope : Text}

theorem findSome?_outer {candidates : List Text} (bare : ∀ candidate ∈ candidates, IsBareName candidate) :
    (candidates.dropWhile app.isNoModule).findSome? app.index.module? =
      (candidates.dropWhile app.isNoModule).findSome? app.index.modules.get? := by
  cases outer : candidates.dropWhile app.isNoModule with
  | nil => rfl
  | cons candidate rest =>
    have listed : candidate ∈ candidates := by
      apply (List.dropWhile_suffix app.isNoModule).subset
      rw [outer]
      exact List.mem_cons_self
    have stopped := List.head?_dropWhile_not app.isNoModule candidates
    rw [outer] at stopped
    obtain ⟨entry, exact⟩ : ∃ entry, app.index.modules.get? candidate = some entry :=
      Option.isSome_iff_exists.mp (by simpa [isNoModule] using stopped)
    have found : app.index.module? candidate = some entry := (bare candidate listed).lookup?_of_get? exact
    rw [List.findSome?_cons, List.findSome?_cons, found, exact]

theorem namedModule?_eq : app.namedModule? name scope =
    ((lexicalCandidates name scope).dropWhile app.isNoModule).findSome? app.index.modules.get? := by
  -- The candidates before the split name no module, so the search among all begins at the split.
  have passed : (app.innerCandidates name scope).findSome? app.index.modules.get? = none := by
    rw [List.findSome?_eq_none_iff]
    intro candidate inner
    simpa [isNoModule] using List.mem_takeWhile_imp inner
  rw [namedModule?, ← List.takeWhile_append_dropWhile (p := app.isNoModule)
    (l := lexicalCandidates name scope), List.findSome?_append]
  rw [innerCandidates] at passed
  rw [passed, Option.none_or, List.takeWhile_append_dropWhile]

section Bare

variable (bare : ∀ candidate ∈ lexicalCandidates name scope, IsBareName candidate)

include bare

theorem moduleIn?_eq : app.moduleIn? name scope =
    ((app.innerCandidates name scope).findSome? app.index.module?).or
      (app.namedModule? name scope) := by
  rw [namedModule?_eq, ← findSome?_outer bare, innerCandidates, ← List.findSome?_append,
    List.takeWhile_append_dropWhile, moduleIn?]

theorem findSome?_inner_eq_none_iff :
    (app.innerCandidates name scope).findSome? app.index.module? = none ↔
      app.Unshadowed name scope := by
  rw [List.findSome?_eq_none_iff, Unshadowed]
  apply forall₂_congr
  intro candidate inner
  exact (bare candidate ((List.takeWhile_prefix _).subset inner)).lookup?_eq_none_iff

theorem namedModule?_ne_of_inner {candidate : Text} {entry : Container}
    (inner : candidate ∈ app.innerCandidates name scope)
    (taken : app.index.module? candidate = some entry) :
    app.namedModule? name scope ≠ some entry := by
  intro named
  rw [namedModule?_eq] at named
  obtain ⟨outer, further, exact⟩ := List.exists_of_findSome?_eq_some named
  have order := pairwise_lexicalCandidates name scope
  rw [← List.takeWhile_append_dropWhile (p := app.isNoModule) (l := lexicalCandidates name scope)]
    at order
  have fewer := (List.pairwise_append.mp order).2.2 candidate inner outer further
  have same := (bare candidate ((List.takeWhile_prefix _).subset inner)).lower_of_lookup? taken
  have counts := congrArg (List.count ':') same
  rw [Text.count_lower (by decide), Text.count_lower (by decide),
    (ContainerTable.mem_of_get? exact).2] at counts
  omega

end Bare

end App

/-- The module taken for a name is the named one, or none where none is named, just when no other module
has the name of an inner candidate but for case. If some has, one of those is taken. -/
theorem named_module_iff {app : App} {name scope : Text}
    (bare : ∀ candidate ∈ lexicalCandidates name scope, IsBareName candidate) :
    (∀ (base : Text) (m : Type → Type) [Monad m] [LawfulMonad m],
        (app.lookups base : Lookups m).moduleIn? name scope = pure (app.moduleIn? name scope)) ∧
      (app.moduleIn? name scope = app.namedModule? name scope ↔ app.Unshadowed name scope) ∧
      (¬ app.Unshadowed name scope → ∃ candidate ∈ app.innerCandidates name scope,
        ∃ other ∈ app.index.modules, app.moduleIn? name scope = some other ∧
          other.qualifiedName ≠ candidate ∧ Text.lower other.qualifiedName = candidate.lower) := by
  have shadow : ¬ app.Unshadowed name scope → ∃ candidate ∈ app.innerCandidates name scope,
      ∃ other, app.index.module? candidate = some other ∧ app.moduleIn? name scope = some other := by
    intro shadowed
    rw [← App.findSome?_inner_eq_none_iff bare] at shadowed
    obtain ⟨other, hit⟩ := Option.ne_none_iff_exists'.mp shadowed
    obtain ⟨candidate, inner, taken⟩ := List.exists_of_findSome?_eq_some hit
    refine ⟨candidate, inner, other, taken, ?_⟩
    rw [App.moduleIn?_eq bare, hit, Option.some_or]
  refine ⟨fun base _ _ _ => app.lookups_moduleIn? base name scope, ⟨?_, ?_⟩, ?_⟩
  · intro same
    by_contra shadowed
    obtain ⟨candidate, inner, other, taken, found⟩ := shadow shadowed
    exact App.namedModule?_ne_of_inner bare inner taken (same.symm.trans found)
  · intro unshadowed
    rw [App.moduleIn?_eq bare, (App.findSome?_inner_eq_none_iff bare).mpr unshadowed, Option.none_or]
  · intro shadowed
    obtain ⟨candidate, inner, other, taken, found⟩ := shadow shadowed
    have member := ContainerTable.lookup?_mem taken
    refine ⟨candidate, inner, other, member, found, ?_,
      (bare candidate ((List.takeWhile_prefix _).subset inner)).lower_of_lookup? taken⟩
    rintro rfl
    have missing : app.index.modules.get? other.qualifiedName = none := by
      simpa [App.isNoModule] using List.mem_takeWhile_imp inner
    exact List.find?_eq_none.mp missing other member (beq_self_eq_true _)

def sampleModule (name : String) (body : List Ruby.Node) : Ruby.Node :=
  .container [] .moduleKind (Utf8.encode name.toList) none body

def mixedSources : List ParsedSource :=
  [⟨"/app/controllers/admin/reports_controller.rb".toList,
      [sampleClass "Admin::ReportsController" [
        sampleCall "include" [.constant (Utf8.encode "Csv".toList)],
        sampleCall "include" [.constant (Utf8.encode "Paging".toList)]]]⟩,
    ⟨"/lib/csv.rb".toList, [sampleModule "Csv" [sampleDef "index"]]⟩,
    ⟨"/lib/admin/csv.rb".toList, [sampleModule "Admin::CSV" [sampleDef "export"]]⟩,
    ⟨"/lib/paging.rb".toList, [sampleModule "Paging" [sampleDef "page"]]⟩]

def mixedApp : App := ⟨['/'], .ofSources mixedSources⟩

theorem built_mixed : Index.Built mixedSources mixedApp.index :=
  Index.built_ofSources (by decide +kernel)

def reportsScope : Text := "Admin::ReportsController".toList

theorem mixed_names :
    (∀ name ∈ ["Paging".toList, "Csv".toList], ∀ candidate ∈ lexicalCandidates name reportsScope,
        IsBareName candidate) ∧
      mixedApp.Unshadowed "Paging".toList reportsScope ∧
      ¬ mixedApp.Unshadowed "Csv".toList reportsScope ∧
      (mixedApp.namedModule? "Paging".toList reportsScope).map (·.qualifiedName) =
        some "Paging".toList ∧
      mixedApp.moduleIn? "Csv".toList reportsScope ≠ mixedApp.namedModule? "Csv".toList reportsScope ∧
      mixedApp.index.classes.map (·.qualifiedName) = [reportsScope] := by
  decide +kernel

theorem named_module_of_mixed :
    (mixedApp.moduleIn? "Paging".toList reportsScope).map (·.qualifiedName) = some "Paging".toList ∧
      ∃ other ∈ mixedApp.index.modules,
        mixedApp.moduleIn? "Csv".toList reportsScope = some other ∧
          mixedApp.namedModule? "Csv".toList reportsScope ≠ some other := by
  obtain ⟨bare, open_paging, shadowed, paging, _, _⟩ := mixed_names
  obtain ⟨_, condition, _⟩ := @named_module_iff mixedApp _ _ (bare "Paging".toList (by decide))
  obtain ⟨_, conditionCsv, taken⟩ := @named_module_iff mixedApp _ _ (bare "Csv".toList (by decide))
  constructor
  · rw [condition.mpr open_paging, paging]
  · obtain ⟨_, _, other, member, found, _⟩ := taken shadowed
    refine ⟨other, member, found, ?_⟩
    intro named
    exact shadowed (conditionCsv.mp (found.trans named.symm))

theorem named_module_shadowed :
    ¬ ∀ (app : App) (sources : List ParsedSource) (container : Container) (name : Text),
      Index.Built sources app.index → container ∈ app.index.classes →
        app.moduleIn? name container.qualifiedName = app.namedModule? name container.qualifiedName := by
  intro always
  obtain ⟨_, _, _, _, different, classes⟩ := mixed_names
  have listed : reportsScope ∈ mixedApp.index.classes.map (·.qualifiedName) := by
    rw [classes]
    exact List.mem_singleton_self _
  obtain ⟨container, member, named⟩ := List.mem_map.mp listed
  have same := always mixedApp mixedSources container "Csv".toList built_mixed member
  rw [named] at same
  exact different same

end RouteReport
