import RouteReport.Route.List
import RouteReport.Text.Quoted

namespace RouteReport

def describeFields (name : String) (fields : List (String × Text)) : Text :=
  name.toList ++ '(' :: Text.join ", ".toList
    (fields.map fun (field, value) => field.toList ++ '=' :: value) ++ [')']

def describeMember (kind : String) (name value : Text) : Text :=
  '<' :: kind.toList ++ '.' :: name ++ ": ".toList ++ Text.quoted value ++ ['>']

def describeOptional (text : Option Text) : Text :=
  match text with
  | some text => Text.quoted text
  | none => "None".toList

def Route.describe (route : Route) : Text :=
  describeFields "Route" [
    ("module", describeOptional route.application),
    ("request_method", describeMember "RequestMethod" route.verb.name route.verb.token),
    ("path", Text.quoted route.path),
    ("controller", Text.quoted route.controller),
    ("action", Text.quoted route.action),
    ("name", Text.quoted route.name),
    ("route_type", describeMember "RouteType" (Text.upper route.type.name) route.type.name)]

def Routes.describe (routes : Routes) : Text :=
  "RouteList([".toList ++ Text.join ", ".toList (routes.map Route.describe) ++ "])".toList

def Engine.describe (engine : Engine) : Text :=
  describeFields "RailsEngine"
    [("name", Text.quoted engine.name), ("mount_path", Text.quoted engine.mountPath)]

end RouteReport
