import Mathlib.Data.PFun
import RouteReport.Resolution.Action

/-! A record of a resolution that is brought up to date in place. Its lookups may fail, and they need not
answer the same each time they are asked, so a search may go on from class to class for ever. -/

namespace RouteReport

/-- A lookup into a world that it may change, and that may fail. -/
abbrev Asking (ε σ : Type) := ExceptT ε (StateM σ)

def Asking.ask (lookup : Asking ε σ α) (world : σ) : Except ε α × σ := lookup.run.run world

namespace Search

inductive Round where
  | ended (search : Search)
  | inherits (parent : Container)
  deriving DecidableEq, Repr

def round [Monad m] (lookups : Lookups m) (name : Text) (container : Container) : m Round := do
  if let some method := container.method? name then return .ended (.found method)
  if let some method ← lookups.mixedIn? container name then return .ended (.found method)
  match ← lookups.parent? container with
  | none => return .ended .absent
  | some parent => return .inherits parent

/-- Where a search stands: the names of the classes already searched, the class to look at, and the
world to look into. -/
structure Place (σ : Type) where
  visited : List Text
  container : Container
  world : σ

def advance (lookups : Lookups (Asking ε σ)) (name : Text) (place : Place σ) :
    (Except ε Search × σ) ⊕ Place σ :=
  let className := place.container.qualifiedName
  if place.visited.contains className then .inl (.ok (.cycle className), place.world)
  else match Asking.ask (round lookups name place.container) place.world with
    | (.ok (.ended search), after) => .inl (.ok search, after)
    | (.ok (.inherits parent), after) => .inr ⟨className :: place.visited, parent, after⟩
    | (.error failure, after) => .inl (.error failure, after)

/-- Goes on round after round. There is no result if the lookups never stop naming further classes. -/
def loop (lookups : Lookups (Asking ε σ)) (name : Text) (start : Place σ) :
    Part (Except ε Search × σ) :=
  PFun.fix (fun place => Part.some (advance lookups name place)) start

end Search

/-- A computation that holds a record beside the world that it asks, and that need not end. -/
abbrev Recording (ε σ : Type) := ExceptT ε (StateT (Action × σ) Part)

namespace Recording

def asking (run : σ → Part (Except ε α × σ)) : Recording ε σ α :=
  ExceptT.mk fun (record, world) =>
    (run world).map fun (result, after) => (result, (record, after))

def store (record : Action) : Recording ε σ Unit :=
  ExceptT.mk fun (_, world) => Part.some (.ok (), (record, world))

end Recording

namespace Action

def search (lookups : Lookups (Asking ε σ)) (action : Text) (controllerClass : Option Container)
    (world : σ) : Part (Except ε Search × σ) :=
  match controllerClass with
  | none => Part.some (.ok .absent, world)
  | some container =>
    if action.isEmpty then Part.some (.ok .absent, world)
    else Search.loop lookups action ⟨[], container, world⟩

def fill (lookups : Lookups (Asking ε σ)) (controller action : Text) : Recording ε σ Log := do
  let controllerClass ←
    Recording.asking fun world => Part.some (Asking.ask (lookups.controller? controller) world)
  let search ← Recording.asking (search lookups action controllerClass)
  let found : Action := ⟨controllerClass, search.method?⟩
  Recording.store found
  return search.log ++ resolvedLog controller action found

/-- Forgets what the record holds before anything is looked up. -/
def update (context : Option (Lookups (Asking ε σ))) (controller action : Text) :
    Recording ε σ Log := do
  Recording.store unresolved
  match context with
  | none => return []
  | some lookups => if controller.isEmpty then return [] else fill lookups controller action

def updated (context : Option (Lookups (Asking ε σ))) (controller action : Text) (earlier : Action)
    (world : σ) : Part (Except ε Log × Action × σ) :=
  (update context controller action).run.run (earlier, world)

def resolveFresh (context : Option (Lookups (Asking ε σ))) (controller action : Text) (world : σ) :
    Part (Except ε Action × σ) :=
  (updated context controller action unresolved world).map fun (result, record, after) =>
    (result.map fun _ => record, after)

end Action

end RouteReport
