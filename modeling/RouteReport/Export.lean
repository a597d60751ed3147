import RouteReport.Document.Json
import RouteReport.Document.Yaml
import RouteReport.Report.Reader
import RouteReport.Resolution.Action

namespace RouteReport.Export

def field (name : String) (value : Document) : Text × Document := (name.toList, value)

def actionDocument (action : Action) : Document :=
  let ofClass := match action.controllerClass with
    | some container => [field "class" (.text container.qualifiedName)]
    | none => []
  let ofMethod := match action.method with
    | some method =>
      [field "method" (.text method.qualifiedName), field "file" (.text method.file),
        field "line" (.number method.line)]
    | none => []
  .record (field "status" (.text action.status.name) :: ofClass ++ ofMethod)

def routeDocument (route : Route) (action : Option Action) : Document :=
  let params := match route.params with
    | [] => []
    | params => [field "params" (.list (params.map .text))]
  let resolution := match action with
    | some action => [field "resolution" (actionDocument action)]
    | none => []
  .record ([field "verb" (.text route.verb.name), field "path" (.text route.path),
    field "controller" (.text route.controller), field "action" (.text route.action),
    field "name" (.text route.name), field "type" (.text route.type.name)] ++ params ++ resolution)

def engineDocument (engine : Engine) : Document :=
  .record [field "name" (.text engine.name), field "mount_path" (.text engine.mountPath)]

def failureFields (failure : Failure) : List (Text × Document) :=
  if failure.isReported then
    [field "error" (.record
      [field "code" (.text failure.code.name), field "stacktrace" (.text failure.trace)])]
  else []

def withActions (routes : Routes) (actions : Option (List (Option Action))) :
    List (Route × Option Action) :=
  match actions with
  | some (first :: others) => routes.zip (first :: others)
  | _ => routes.map (·, none)

def document (routes : Routes) (reader : Option Reader) (actions : Option (List (Option Action))) :
    Document :=
  let ofReader := match reader with
    | some reader =>
      field "engines" (.list (reader.engines.map engineDocument)) :: failureFields reader.failure
    | none => []
  .record (field "routes" (.list
    ((withActions routes actions).map fun (route, action) => routeDocument route action)) :: ofReader)

def actionsOf (lookups : Lookups (Except ε)) (routes : Routes) : List (Option (Action.Outcome ε)) :=
  routes.map fun route =>
    if route.type = .normal then some (Action.resolve (some lookups) route.controller route.action)
    else none

end RouteReport.Export
