import RouteReport.Log
import RouteReport.Report.Columns
import RouteReport.Report.Target
import RouteReport.Text.Quoted

namespace RouteReport

/-- The routes of a line that has the columns of one, with the number of invalid ones left out;
or the reason why it has none. -/
inductive LineReading where
  | tableHeader
  | engineHeader (engine : Text)
  | unrecognized (line : Text)
  | routes (line : Text) (kept : List Route) (dropped : Nat)
  deriving DecidableEq, Repr

namespace LineReading

def isTableHeader (line : Text) : Bool :=
  match (Text.trimLeft line).afterPrefix? "Prefix".toList with
  | some rest => rest.head?.any Text.isBlank && "Verb".toList.isPrefixOf rest.trimLeft
  | none => false

def isEngineNameChar (c : Char) : Bool :=
  Text.isAsciiLetter c || Text.isAsciiDigit c || c == ':' || c == '_'

def announcedEngine? (line : Text) : Option Text := do
  let rest ← line.afterPrefix? "Routes for ".toList
  let (engine, _) ← Text.cutLast? (rest.takeWhile isEngineNameChar) [':']
  guard (!engine.isEmpty)
  return engine

def candidates (application : Option Text) (columns : Columns) : List Route :=
  let endpoint := Endpoint.ofTarget columns.target
  let type := RouteType.classify endpoint.controller endpoint.action columns.target
  (columns.verbs.splitOn '|').map fun verb =>
    ⟨application, Verb.ofToken verb, columns.path, endpoint.controller, endpoint.action,
      columns.name, type⟩

def ofData (application : Option Text) (line : Text) : LineReading :=
  match Columns.ofLine? line with
  | none => .unrecognized line
  | some columns =>
    let all := candidates application columns
    let kept := all.filter (·.isValid)
    .routes line kept (all.length - kept.length)

def ofAnnouncement? (line : Text) : Option LineReading :=
  if isTableHeader line then some .tableHeader else (announcedEngine? line).map .engineHeader

def ofLine (application : Option Text) (line : Text) : LineReading :=
  (ofAnnouncement? line).getD (ofData application line)

def routes? : LineReading → Option (List Route)
  | .routes _ kept _ => some kept
  | _ => none

/-- A line with a single route, mounted, tells of an engine. -/
def engine? (reading : LineReading) : Option Engine :=
  match reading.routes? with
  | some [route] => if route.type = .mounted then some ⟨route.endpoint, route.path⟩ else none
  | _ => none

def log : LineReading → Log
  | .tableHeader => []
  | .engineHeader engine => [⟨.debug, "Routes for engine ".toList ++ engine⟩]
  | .unrecognized line =>
    if (Text.trim line).isEmpty then []
    else [⟨.debug, "Skipping unrecognized line: ".toList ++ line.quoted⟩]
  | .routes line _ dropped =>
    List.replicate dropped ⟨.debug, "Dropping invalid route from line: ".toList ++ line.quoted⟩

end LineReading

end RouteReport
