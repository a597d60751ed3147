import RouteReport.Resolution.Lookups

namespace RouteReport

inductive Search where
  | found (method : Method)
  | absent
  | cycle (className : Text)
  deriving DecidableEq, Repr

namespace Search

def method? : Search → Option Method
  | .found method => some method
  | _ => none

def log : Search → Log
  | .cycle name => [⟨.warning, "Inheritance cycle at ".toList ++ name⟩]
  | _ => []

/-- Each class is searched once: its own definitions, then its modules, then its parent.
`unvisited` are the classes not yet searched. -/
def along [Monad m] (lookups : Lookups m) (name : Text) (unvisited : List Text)
    (container : Container) : m Search :=
  if _fresh : container.qualifiedName ∈ unvisited then do
    if let some method := container.method? name then return .found method
    if let some method ← lookups.mixedIn? container name then return .found method
    match ← lookups.parent? container with
    | none => return .absent
    | some parent => along lookups name (unvisited.erase container.qualifiedName) parent
  else pure (.cycle container.qualifiedName)
termination_by unvisited.length
decreasing_by
  have := List.length_erase_of_mem _fresh
  have := List.length_pos_of_mem _fresh
  omega

end Search

def Lookups.method? [Monad m] (lookups : Lookups m) (container : Container) (name : Text) :
    m Search :=
  Search.along lookups name lookups.classNames container

end RouteReport
