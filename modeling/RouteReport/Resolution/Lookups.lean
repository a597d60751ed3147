import RouteReport.App
import RouteReport.Naming.Scope

namespace RouteReport

structure Lookups (m : Type → Type) where
  classNames : List Text
  /-- The application's own controller of a name such as `admin/users`. -/
  ownController : Text → m (Option Container)
  anyController : Text → m (Option Container)
  moduleNamed : Text → m (Option Container)

def App.lookups [Monad m] (app : App) (base : Text := ['/']) : Lookups m where
  classNames := app.index.classes.map (·.qualifiedName)
  ownController controller := pure (app.controller? controller base)
  anyController className := pure (app.index.class? className)
  moduleNamed name := pure (app.index.module? name)

namespace Lookups

variable {m : Type → Type} [Monad m]

/-- The application's own controllers come before those of mounted engines and libraries. -/
def controller? (lookups : Lookups m) (controller : Text) : m (Option Container) :=
  if controller.isEmpty then pure none
  else do
    match ← lookups.ownController controller with
    | some found => return some found
    | none => lookups.anyController (controllerClassName controller)

def moduleIn? (lookups : Lookups m) (name scope : Text) : m (Option Container) :=
  (lexicalCandidates name scope).findSomeM? lookups.moduleNamed

/-- The class that a superclass clause names, as far as it follows the naming of controllers. -/
def parent? (lookups : Lookups m) (container : Container) : m (Option Container) :=
  match container.superclass with
  | none => pure none
  | some superclass =>
    if superclass.isEmpty then pure none
    else (lexicalCandidates superclass container.namespaceName).findSomeM? fun candidate =>
      match controllerOfClass? candidate with
      | some controller => lookups.controller? controller
      | none => pure none

/-- The method as the included modules define it, the last one included first. -/
def mixedIn? (lookups : Lookups m) (container : Container) (name : Text) : m (Option Method) :=
  container.includes.reverse.findSomeM? fun included => do
    match ← lookups.moduleIn? included container.qualifiedName with
    | some found => return found.method? name
    | none => return none

end Lookups

end RouteReport
