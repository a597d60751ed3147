import RouteReport.Resolution.Search
import RouteReport.Route.Describe

namespace RouteReport

inductive ActionStatus where
  | publicAction
  | protectedOrPrivate
  | unresolved
  deriving DecidableEq, Repr

def ActionStatus.name : ActionStatus → Text
  | .publicAction => "public".toList
  | .protectedOrPrivate => "protected_or_private".toList
  | .unresolved => "unresolved".toList

inductive ActionIcon where
  | action
  | method
  | error
  deriving DecidableEq, Repr

def ActionIcon.name : ActionIcon → Text
  | .action => "action".toList
  | .method => "method".toList
  | .error => "error".toList

/-- The class is the controller that the route names; the method may be defined elsewhere. -/
structure Action where
  controllerClass : Option Container
  method : Option Method
  deriving DecidableEq, Repr

namespace Action

def unresolved : Action := ⟨none, none⟩

def status (action : Action) : ActionStatus :=
  match action.method with
  | none => .unresolved
  | some method => if method.visibility = .publicMethod then .publicAction else .protectedOrPrivate

def icon (action : Action) : ActionIcon :=
  match action.status with
  | .publicAction => .action
  | .protectedOrPrivate => .method
  | .unresolved => .error

def isResolved (action : Action) : Bool := action.method.isSome

def find [Monad m] (lookups : Lookups m) (controller action : Text) : m (Action × Log) := do
  match ← lookups.controller? controller with
  | none => return (unresolved, [])
  | some container =>
    if action.isEmpty then return (⟨some container, none⟩, [])
    else
      let search ← lookups.method? container action
      return (⟨some container, search.method?⟩, search.log)

def resolvedLog (controller action : Text) (found : Action) : Log :=
  let nameOf (name : Option Text) := name.getD "None".toList
  [⟨.debug, "Resolved ".toList ++ controller ++ '#' :: action ++ ": class=".toList ++
    nameOf (found.controllerClass.map (·.qualifiedName)) ++ " method=".toList ++
    nameOf (found.method.map (·.qualifiedName))⟩]

structure Outcome (ε : Type) where
  action : Action
  log : Log
  failure : Option ε

/-- Resolves from nothing; a lookup that fails leaves nothing resolved. -/
def resolve (lookups : Option (Lookups (Except ε))) (controller action : Text) : Outcome ε :=
  match lookups with
  | none => ⟨unresolved, [], none⟩
  | some lookups =>
    if controller.isEmpty then ⟨unresolved, [], none⟩
    else match find lookups controller action with
      | .ok (found, log) => ⟨found, log ++ resolvedLog controller action found, none⟩
      | .error failure => ⟨unresolved, [], some failure⟩

def sameAs (a b : Action) : Bool :=
  a.controllerClass.map (·.qualifiedName) == b.controllerClass.map (·.qualifiedName) &&
    a.method == b.method

def describeMethod (method : Method) : Text :=
  describeFields "RubyMethod" [
    ("name", Text.quoted method.name),
    ("owner", Text.quoted method.owner),
    ("visibility", describeMember "Visibility" (Text.upper method.visibility.name) method.visibility.name),
    ("required_params", Text.ofNat method.requiredParams),
    ("source_file", Text.quoted method.file),
    ("source_line", Text.ofNat method.line)]

def describe (action : Action) : Text :=
  "<ActionInfo class=".toList ++
    (action.controllerClass.map Container.describe).getD "None".toList ++ " method=".toList ++
    (action.method.map describeMethod).getD "None".toList ++ ['>']

end Action

end RouteReport
