import RouteReport.Proofs.Index.Lookup
import RouteReport.Proofs.Resolution.OwnParent

/-! The controller of a name among the classes that share its class name but for case. The application
is looked into first, but only for the class that the index gives; the index knows nothing of the
application, so a class from elsewhere can stand in front of the application's own. -/

namespace RouteReport

theorem soughtName_controllerClassName_ne_nil (controller : Text) :
    soughtName (controllerClassName controller) ≠ [] := by
  obtain ⟨stem, suffix⟩ : ∃ stem, controllerSuffix = stem ++ ['r'] :=
    List.getLast?_eq_some_iff.mp (by decide)
  have solid : Text.isBlank 'r' = false := by decide
  obtain ⟨rest, trimmed⟩ := Text.trim_append_singleton (camelize controller ++ stem) solid
  rw [List.append_assoc, ← suffix, ← controllerClassName] at trimmed
  rw [soughtName, trimmed]
  cases absolute : Text.afterPrefix? (rest ++ ['r']) scopeMark with
  | none => simp
  | some inner =>
    intro empty
    rw [Option.getD_some] at empty
    rw [empty, Text.afterPrefix?_eq_some_nil] at absolute
    have ended := congrArg List.getLast? absolute
    rw [List.getLast?_concat] at ended
    exact absurd ended (by decide)

namespace App

/-- The class lies in the directory of the application's controllers. -/
def isOwn (app : App) (base : Text) (container : Container) : Bool :=
  container.isDefinedUnder app.controllersDirectory base

/-- The class of exactly the name that a controller's class is looked up under. -/
def exactClass? (app : App) (controller : Text) : Option Container :=
  app.index.classes.get? (soughtName (controllerClassName controller))

/-- All classes of that name but for case, in the order of the index. -/
def namesakes (app : App) (controller : Text) : List Container :=
  app.index.classes.filter fun entry =>
    Text.lower entry.qualifiedName == (soughtName (controllerClassName controller)).lower

variable {app : App} {controller : Text}

theorem mem_namesakes_of_exactClass? {container : Container}
    (exact : app.exactClass? controller = some container) : container ∈ app.namesakes controller := by
  obtain ⟨member, named⟩ := ContainerTable.mem_of_get? exact
  exact List.mem_filter.mpr ⟨member, by rw [named, beq_self_eq_true]⟩

theorem controllerAnywhere?_eq_namesake (named : controller ≠ []) :
    app.controllerAnywhere? controller =
      (app.exactClass? controller).or (app.namesakes controller).head? := by
  have read := soughtName_controllerClassName_ne_nil controller
  rw [app.controllerAnywhere?_eq named, Index.class?,
    ContainerTable.lookup?_of_bare _ rfl read, namesakes, List.head?_filter, Option.or_eq_orElse]
  rfl

theorem mem_namesakes_of_controllerAnywhere? (named : controller ≠ []) {found : Container}
    (result : app.controllerAnywhere? controller = some found) : found ∈ app.namesakes controller := by
  rw [controllerAnywhere?_eq_namesake named] at result
  rcases Option.or_eq_some_iff.mp result with exact | ⟨_, first⟩
  · exact mem_namesakes_of_exactClass? exact
  · exact List.mem_of_head? first

theorem controllerAnywhere?_eq_none_iff (named : controller ≠ []) :
    app.controllerAnywhere? controller = none ↔ app.namesakes controller = [] := by
  constructor
  · intro missing
    rw [controllerAnywhere?_eq_namesake named, Option.or_eq_none_iff] at missing
    exact List.head?_eq_none_iff.mp missing.2
  · intro nobody
    by_contra present
    obtain ⟨found, result⟩ := Option.ne_none_iff_exists'.mp present
    have member := mem_namesakes_of_controllerAnywhere? named result
    rw [nobody] at member
    exact List.not_mem_nil member

theorem exists_namesake_of_mem (named : controller ≠ []) {own : Container}
    (member : own ∈ app.namesakes controller) :
    ∃ found ∈ app.namesakes controller, app.controllerAnywhere? controller = some found := by
  have present : app.controllerAnywhere? controller ≠ none := by
    intro missing
    rw [(controllerAnywhere?_eq_none_iff named).mp missing] at member
    exact List.not_mem_nil member
  obtain ⟨found, result⟩ := Option.ne_none_iff_exists'.mp present
  exact ⟨found, mem_namesakes_of_controllerAnywhere? named result, result⟩

end App

/-- A controller is found in the application just when the class of exactly its name lies there, or no
class has exactly that name and the first that has it but for case lies there. Otherwise a namesake from
elsewhere stands in for it, and nothing is found only where there are no namesakes at all. -/
theorem own_controller_iff (app : App) (base : Text) {controller : Text} (named : controller ≠ []) :
    (∀ (m : Type → Type) [Monad m] [LawfulMonad m],
        (app.lookups base : Lookups m).controller? controller =
          pure (app.controllerAnywhere? controller)) ∧
      ((∃ found, app.controllerAnywhere? controller = some found ∧ app.isOwn base found) ↔
        (∃ exact, app.exactClass? controller = some exact ∧ app.isOwn base exact) ∨
          (app.exactClass? controller = none ∧
            ∃ first, (app.namesakes controller).head? = some first ∧ app.isOwn base first)) ∧
      ((∃ own ∈ app.namesakes controller, app.isOwn base own) →
        (¬ ∃ found, app.controllerAnywhere? controller = some found ∧ app.isOwn base found) →
          ∃ other ∈ app.namesakes controller,
            app.controllerAnywhere? controller = some other ∧ ¬ app.isOwn base other) ∧
      (app.controllerAnywhere? controller = none ↔ app.namesakes controller = []) := by
  refine ⟨fun _ _ _ => app.lookups_controller? base controller, ?_, ?_,
    App.controllerAnywhere?_eq_none_iff named⟩
  · rw [App.controllerAnywhere?_eq_namesake named]
    cases app.exactClass? controller with
    | some exact => simp
    | none => simp
  · rintro ⟨own, member, _⟩ elsewhere
    obtain ⟨other, namesake, result⟩ := App.exists_namesake_of_mem named member
    exact ⟨other, namesake, result, fun inside => elsewhere ⟨other, result, inside⟩⟩

def engineSources : List ParsedSource :=
  [⟨"/engines/blog/app/controllers/api_controller.rb".toList,
      [sampleClass "ApiController" [sampleDef "index"]]⟩,
    ⟨"/engines/blog/app/controllers/users_controller.rb".toList,
      [sampleClass "USERSController" [sampleDef "index"]]⟩,
    ⟨"/app/controllers/api_controller.rb".toList,
      [sampleClass "APIController" [sampleDef "index"]]⟩,
    ⟨"/app/controllers/users_controller.rb".toList,
      [sampleClass "UsersController" [sampleDef "index"]]⟩]

def engineApp : App := ⟨['/'], .ofSources engineSources⟩

theorem built_engines : Index.Built engineSources engineApp.index :=
  Index.built_ofSources (by decide +kernel)

theorem engine_namesakes :
    (∃ exact, engineApp.exactClass? "users".toList = some exact ∧ engineApp.isOwn ['/'] exact) ∧
      (∃ exact, engineApp.exactClass? "api".toList = some exact ∧ ¬ engineApp.isOwn ['/'] exact) ∧
      ∃ own ∈ engineApp.namesakes "api".toList, engineApp.isOwn ['/'] own ∧
        Text.lower own.qualifiedName = Text.lower (controllerClassName "api".toList) := by
  have users : (engineApp.exactClass? "users".toList).any (engineApp.isOwn ['/']) = true := by decide +kernel
  have api : (engineApp.exactClass? "api".toList).any (!engineApp.isOwn ['/'] ·) = true := by
    decide +kernel
  have own : (engineApp.namesakes "api".toList).any (fun entry => engineApp.isOwn ['/'] entry &&
      Text.lower entry.qualifiedName == Text.lower (controllerClassName "api".toList)) = true := by
    decide +kernel
  refine ⟨(Option.any_eq_true _ _).mp users, ?_, ?_⟩
  · simpa using (Option.any_eq_true _ _).mp api
  · simpa using List.any_eq_true.mp own

theorem own_controller_of_engines :
    "users".toList ≠ [] ∧
      (∃ found, engineApp.controllerAnywhere? "users".toList = some found ∧
        engineApp.isOwn ['/'] found) ∧
      ∃ other ∈ engineApp.namesakes "api".toList,
        engineApp.controllerAnywhere? "api".toList = some other ∧ ¬ engineApp.isOwn ['/'] other := by
  obtain ⟨users, ⟨blog, exact, outside⟩, own, member, inside, _⟩ := engine_namesakes
  obtain ⟨_, found, _, _⟩ := @own_controller_iff engineApp ['/'] "users".toList (by decide)
  obtain ⟨_, condition, elsewhere, _⟩ := @own_controller_iff engineApp ['/'] "api".toList (by decide)
  refine ⟨by decide, found.mpr (Or.inl users), elsewhere ⟨own, member, inside⟩ ?_⟩
  intro taken
  rcases condition.mp taken with ⟨other, exactly, within⟩ | ⟨none_exact, _⟩
  · rw [exact] at exactly
    cases exactly
    exact outside within
  · rw [exact] at none_exact
    cases none_exact

theorem own_controller_hidden :
    ¬ ∀ (app : App) (sources : List ParsedSource) (base controller : Text),
      Index.Built sources app.index →
        (∃ own ∈ app.index.classes, app.isOwn base own ∧
          Text.lower own.qualifiedName = Text.lower (controllerClassName controller)) →
        ∃ found, app.controllerAnywhere? controller = some found ∧ app.isOwn base found := by
  intro always
  obtain ⟨_, ⟨blog, exact, outside⟩, own, member, inside, same⟩ := engine_namesakes
  obtain ⟨found, result, within⟩ := always engineApp engineSources ['/'] "api".toList built_engines
    ⟨own, (List.mem_filter.mp member).1, inside, same⟩
  rw [App.controllerAnywhere?_eq_namesake (by decide), exact, Option.some_or] at result
  cases result
  exact outside within

end RouteReport
