import RouteReport.Proofs.Index.Visibility
import RouteReport.Resolution.Search

namespace RouteReport

open Ruby (ContainerKind)

namespace App

/-- The controller of a name, first in the application and then anywhere. -/
def controllerAnywhere? (app : App) (controller : Text) : Option Container :=
  if controller.isEmpty then none
  else app.controller? controller <|> app.index.class? (controllerClassName controller)

def moduleIn? (app : App) (name scope : Text) : Option Container :=
  (lexicalCandidates name scope).findSome? app.index.module?

def parent? (app : App) (container : Container) : Option Container :=
  match container.superclass with
  | none => none
  | some superclass =>
    if superclass.isEmpty then none
    else (lexicalCandidates superclass container.namespaceName).findSome? fun candidate =>
      (controllerOfClass? candidate).bind app.controllerAnywhere?

/-- The definition that a class sees without its ancestors: its own, or that of the last included
module that has one. -/
def definition? (app : App) (name : Text) (container : Container) : Option Method :=
  container.method? name <|> container.includes.reverse.findSome? fun included =>
    (app.moduleIn? included container.qualifiedName).bind (·.method? name)

theorem class?_of_controller? {app : App} {base controller : Text} {found : Container}
    (own : app.controller? controller base = some found) :
    app.index.class? (controllerClassName controller) = some found := by
  unfold controller? at own
  split at own
  · cases own
  · exact Option.eq_some_of_filter_eq_some own

theorem controllerAnywhere?_eq (app : App) {controller : Text} (nonempty : controller ≠ []) :
    app.controllerAnywhere? controller = app.index.class? (controllerClassName controller) := by
  have some_name : ¬ controller.isEmpty = true := by simpa using nonempty
  rw [controllerAnywhere?, if_neg some_name]
  cases own : app.controller? controller with
  | none => rfl
  | some found => rw [class?_of_controller? own]; rfl

section Lookups

variable {m : Type → Type} [Monad m] [LawfulMonad m] (app : App) (base : Text)

theorem findSomeM?_lookups {α β : Type} (keys : List α) (lookup : α → Option β)
    (effect : α → m (Option β)) (agree : ∀ key, effect key = pure (lookup key)) :
    keys.findSomeM? effect = pure (keys.findSome? lookup) := by
  have same : effect = fun key => pure (lookup key) := funext agree
  rw [same, List.findSomeM?_pure]

theorem lookups_controller? (controller : Text) :
    (app.lookups base : Lookups m).controller? controller =
      pure (app.controllerAnywhere? controller) := by
  by_cases empty : controller.isEmpty = true
  · simp [Lookups.controller?, controllerAnywhere?, empty]
  · have named : controller ≠ [] := by simpa using empty
    cases own : app.controller? controller base with
    | none => simp [Lookups.controller?, lookups, empty, own, app.controllerAnywhere?_eq named]
    | some found =>
      simp [Lookups.controller?, lookups, empty, own, app.controllerAnywhere?_eq named,
        class?_of_controller? own]

theorem lookups_moduleIn? (name scope : Text) :
    (app.lookups base : Lookups m).moduleIn? name scope = pure (app.moduleIn? name scope) :=
  findSomeM?_lookups _ _ _ fun _ => rfl

theorem lookups_parent? (container : Container) :
    (app.lookups base : Lookups m).parent? container = pure (app.parent? container) := by
  unfold Lookups.parent? parent?
  cases container.superclass with
  | none => rfl
  | some superclass =>
    by_cases empty : superclass.isEmpty = true
    · simp [empty]
    · simp only [empty]
      apply findSomeM?_lookups
      intro candidate
      cases controllerOfClass? candidate with
      | none => rfl
      | some controller => exact app.lookups_controller? base controller

theorem lookups_mixedIn? (container : Container) (name : Text) :
    (app.lookups base : Lookups m).mixedIn? container name =
      pure (container.includes.reverse.findSome? fun included =>
        (app.moduleIn? included container.qualifiedName).bind (·.method? name)) := by
  apply findSomeM?_lookups
  intro included
  rw [lookups_moduleIn?, pure_bind]
  cases app.moduleIn? included container.qualifiedName <;> rfl

end Lookups

theorem controllerAnywhere?_mem {app : App} {controller : Text} {found : Container}
    (hit : app.controllerAnywhere? controller = some found) : found ∈ app.index.classes := by
  unfold controllerAnywhere? at hit
  split at hit
  · cases hit
  · cases own : app.controller? controller with
    | none =>
      rw [own] at hit
      exact ContainerTable.lookup?_mem hit
    | some inApp =>
      have same : inApp = found := by simpa [own] using hit
      subst same
      exact ContainerTable.lookup?_mem (class?_of_controller? own)

theorem parent?_mem {app : App} {container parent : Container}
    (found : app.parent? container = some parent) : parent ∈ app.index.classes := by
  unfold parent? at found
  cases written : container.superclass with
  | none => simp [written] at found
  | some superclass =>
    simp only [written] at found
    split at found
    · cases found
    · rcases List.exists_of_findSome?_eq_some found with ⟨candidate, _, hit⟩
      rcases Option.bind_eq_some_iff.mp hit with ⟨controller, _, hit⟩
      exact controllerAnywhere?_mem hit

theorem moduleIn?_mem {app : App} {name scope : Text} {found : Container}
    (hit : app.moduleIn? name scope = some found) : found ∈ app.index.modules := by
  rcases List.exists_of_findSome?_eq_some hit with ⟨candidate, _, hit⟩
  exact ContainerTable.lookup?_mem hit

end App

theorem Container.method?_mem {container : Container} {name : Text} {method : Method}
    (found : container.method? name = some method) :
    method ∈ container.definitions ∧ method.name = name := by
  have listed : method ∈ container.definitionsOf name := by
    unfold method? at found
    cases plain : ((container.definitionsOf name).filter (·.requiredParams == 0)).getLast? with
    | some last =>
      have same : last = method := by simpa [plain] using found
      exact same ▸ (List.mem_filter.mp (List.mem_of_getLast? plain)).1
    | none =>
      have last : (container.definitionsOf name).getLast? = some method := by
        simpa [plain] using found
      exact List.mem_of_getLast? last
  rcases List.mem_filter.mp listed with ⟨defined, named⟩
  exact ⟨defined, by simpa using named⟩

theorem App.definition?_owner {app : App} {sources : List ParsedSource}
    (built : Index.Built sources app.index) {container : Container}
    (member : container ∈ app.index.classes) {name : Text} {method : Method}
    (found : app.definition? name container = some method) :
    method.name = name ∧ (method.owner = container.qualifiedName ∨
      ∃ included ∈ container.includes, ∃ mixin ∈ app.index.modules,
        app.moduleIn? included container.qualifiedName = some mixin ∧
          method.owner = mixin.qualifiedName) := by
  unfold definition? at found
  cases own : container.method? name with
  | some first =>
    have same : first = method := by simpa [own] using found
    subst same
    rcases Container.method?_mem own with ⟨defined, named⟩
    exact ⟨named, .inl (built.owner .classKind member defined).2⟩
  | none =>
    have mixed : container.includes.reverse.findSome? (fun included =>
        (app.moduleIn? included container.qualifiedName).bind (·.method? name)) = some method := by
      simpa [own] using found
    rcases List.exists_of_findSome?_eq_some mixed with ⟨included, listed, hit⟩
    rcases Option.bind_eq_some_iff.mp hit with ⟨mixin, resolved, hit⟩
    rcases Container.method?_mem hit with ⟨defined, named⟩
    have known := moduleIn?_mem resolved
    exact ⟨named, .inr ⟨included, List.mem_reverse.mp listed, mixin, known, resolved,
      (built.owner .moduleKind known defined).2⟩⟩

end RouteReport
