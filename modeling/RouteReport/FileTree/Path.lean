import RouteReport.Text.Basic

namespace RouteReport

namespace Path

def isAbsolute (path : Text) : Bool := path.head? = some '/'

def join (directory name : Text) : Text :=
  if isAbsolute name then name
  else if directory.isEmpty || directory.getLast? = some '/' then directory ++ name
  else directory ++ '/' :: name

/-- The root of a path: none, one slash, or exactly two. -/
def rootOf (path : Text) : Text :=
  match path with
  | '/' :: '/' :: '/' :: _ => ['/']
  | '/' :: '/' :: _ => ['/', '/']
  | '/' :: _ => ['/']
  | _ => []

/-- Adds a component to a resolved path, whose last component stands first. -/
def resolveStep (isRooted : Bool) (done : List Text) (component : Text) : List Text :=
  if component.isEmpty || component == ['.'] then done
  else if component != ['.', '.'] then component :: done
  else match done with
    | [] => if isRooted then [] else [component]
    | last :: before => if last == ['.', '.'] then component :: done else before

def components (path : Text) : List Text :=
  ((path.splitOn '/').foldl (resolveStep (isAbsolute path)) []).reverse

/-- The shortest name of the same place, as far as the name alone can tell. -/
def normalize (path : Text) : Text :=
  let name := rootOf path ++ Text.join ['/'] (components path)
  if name.isEmpty then ['.'] else name

def absolute (base path : Text) : Text := normalize (join base path)

/-- The name with exactly one slash at its end. -/
def asDirectory (path : Text) : Text := join path []

end Path

end RouteReport
