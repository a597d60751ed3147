import RouteReport.Naming.Inflection
import RouteReport.Route.Verb

namespace RouteReport

inductive RouteType where
  | normal
  | mounted
  | redirect
  deriving DecidableEq, Repr

namespace RouteType

def all : List RouteType := [.normal, .mounted, .redirect]

def name : RouteType → Text
  | .normal => "normal".toList
  | .mounted => "mounted".toList
  | .redirect => "redirect".toList

def ofName? (name : Text) : Option RouteType := all.find? (·.name == name)

end RouteType

def redirectMark : Text := "redirect(".toList

def isRedirectTarget (target : Text) : Bool := redirectMark.isPrefixOf (Text.trimLeft target)

/-- A constant without an action is a mounted application. -/
def RouteType.classify (controller action target : Text) : RouteType :=
  if isRedirectTarget target then .redirect
  else if !controller.isEmpty && action.isEmpty && isConstantName controller then .mounted
  else .normal

/-- One request method on one path. The application it was read for is the caller's to name. -/
structure Route where
  application : Option Text
  verb : Verb
  path : Text
  controller : Text
  action : Text
  name : Text
  type : RouteType
  deriving DecidableEq, Repr

namespace Route

/-- A route needs a path, and a normal one both a controller and an action. -/
def isValid (route : Route) : Bool :=
  !route.path.isEmpty &&
    (route.type != .normal || (!route.controller.isEmpty && !route.action.isEmpty))

def endpoint (route : Route) : Text :=
  if route.action.isEmpty then route.controller else route.controller ++ '#' :: route.action

/-- A mounted route names its class; the others follow the naming of controllers. -/
def className (route : Route) : Text :=
  if route.type = .mounted || route.controller.isEmpty then route.controller
  else controllerClassName route.controller

def startsParam (c : Char) : Bool := Text.isAsciiLetter c || c == '_'

def paramsIn : Text → List Text
  | [] => []
  | c :: rest =>
    if (c == ':' || c == '*') && rest.head?.any startsParam then
      rest.takeWhile Text.isWord :: paramsIn rest
    else paramsIn rest

def params (route : Route) : List Text := paramsIn route.path

/-- The query occurs in the path, controller, action or name, in any case. -/
def answers (route : Route) (query : Text) : Bool :=
  [route.path, route.controller, route.action, route.name].any fun field =>
    (Text.lower field).holds query.lower

end Route

structure Engine where
  name : Text
  mountPath : Text
  deriving DecidableEq, Repr

end RouteReport
