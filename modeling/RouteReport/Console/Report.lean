import RouteReport.Console.Markup
import RouteReport.Console.Table
import RouteReport.Report.Reader
import RouteReport.Resolution.Action

namespace RouteReport.Console

def verbStyle : Verb → String
  | .get => "green"
  | .post => "yellow"
  | .put => "blue"
  | .patch => "blue"
  | .delete => "red"
  | .any => "magenta"
  | .head => "white"
  | .options => "white"

def styled (style : String) (text : Text) : Text :=
  '[' :: style.toList ++ ']' :: text ++ '[' :: '/' :: style.toList ++ [']']

def verbCell (route : Route) : Text := styled (verbStyle route.verb) route.verb.name

def actionCell (route : Route) : Text :=
  match route.type with
  | .mounted => styled "magenta" route.controller
  | .redirect => styled "dim" "redirect".toList
  | .normal => route.className ++ '#' :: route.action

def iconCell : Option Action → Text
  | none => []
  | some action =>
    match action.icon with
    | .action => styled "green" ['●']
    | .method => styled "yellow" ['○']
    | .error => styled "red" ['✗']

/-- What is drawn at once. Its texts are handed over as markup. -/
inductive Drawing where
  | lines (markup : Text)
  | panel (title content : Text)
  | table (title : Text) (columns : List Column)

def Drawing.blank : Drawing := .lines []

def failureDrawing (failure : Failure) : Drawing :=
  let title := if failure.code = .taskNotFound then "Routes task not found" else "Routes task failed"
  .panel (styled "bold red" title.toList)
    (if failure.trace.isEmpty then "(no output)".toList else failure.trace)

def routeRows (routes : Routes) : Option (List (Option Action)) → List (Route × Option Action)
  | none => routes.map (·, none)
  | some actions => routes.zip actions

def routesTable (routes : Routes) (actions : Option (List (Option Action))) : Drawing :=
  let rows := routeRows routes actions
  let icons : List Column :=
    if actions.isSome then [⟨[], some 2, none, rows.map (iconCell ·.2)⟩] else []
  .table "Routes".toList <| icons ++
    [⟨"Verb".toList, some 8, none, rows.map (verbCell ·.1)⟩,
      ⟨"Path".toList, none, some 50, rows.map (·.1.path)⟩,
      ⟨"Action".toList, none, some 48, rows.map (actionCell ·.1)⟩,
      ⟨"Name".toList, none, none, rows.map (·.1.name)⟩]

def engineLine (engine : Engine) : Text :=
  "  ".toList ++ styled "magenta" engine.name ++ " at ".toList ++ engine.mountPath

def engineDrawings (engines : List Engine) : List Drawing :=
  if engines.isEmpty then []
  else [.lines (styled "bold" "Mounted engines:".toList)] ++
    engines.map (fun engine => .lines (engineLine engine)) ++ [.blank]

def countLine (label : String) (width count : Nat) : List Text :=
  if count == 0 then [] else [label.toList ++ (Text.ofNat count).padLeft width]

def summaryLines (routes : Routes) (actions : Option (List (Option Action))) : List Text :=
  let unresolved := ((actions.getD []).filter fun action => action.any (!·.isResolved)).length
  [styled "bold" "Summary:".toList,
    "  Total routes:      ".toList ++ Text.ofNat routes.length,
    "  Controllers:       ".toList ++ Text.padLeft (Text.ofNat routes.controllers.length) 4] ++
    countLine "  Mounted:           " 4 (routes.ofType .mounted).length ++
    countLine "  Redirects:         " 4 (routes.ofType .redirect).length ++
    (countLine "Unresolved actions: " 3 unresolved).map fun line => "  ".toList ++ styled "red" line

def summaryDrawings (routes : Routes) (actions : Option (List (Option Action))) : List Drawing :=
  (summaryLines routes actions).map .lines ++ [.blank]

def reportDrawings (routes : Routes) (reader : Reader) (actions : Option (List (Option Action))) :
    List Drawing :=
  (if reader.failure.isReported then [failureDrawing reader.failure] else []) ++
    if routes.isEmpty then [.lines (styled "yellow" "No routes found.".toList)]
    else [routesTable routes actions, .blank] ++ engineDrawings reader.engines ++
      summaryDrawings routes actions

structure Printed (Fault : Type) where
  lines : List Text
  fault : Option Fault

def Printed.text {Fault : Type} (printed : Printed Fault) : Text := printed.lines.flatMap (· ++ ['\n'])

/-- A library that draws on a console, and may be at fault with what it is handed. -/
structure Renderer (Fault : Type) where
  draw : Drawing → Except Fault (List Text)

namespace Renderer

variable {Fault : Type} (renderer : Renderer Fault)

/-- Nothing is printed after a fault. -/
def print : List Drawing → Printed Fault
  | [] => ⟨[], none⟩
  | drawing :: rest =>
    match renderer.draw drawing with
    | .ok lines =>
      let later := print rest
      ⟨lines ++ later.lines, later.fault⟩
    | .error fault => ⟨[], some fault⟩

def printReport (routes : Routes) (reader : Reader) (actions : Option (List (Option Action))) :
    Printed Fault :=
  renderer.print (reportDrawings routes reader actions)

end Renderer

def Column.shown (column : Column) : Except MarkupFault Column := do
  let header ← Console.shown column.header
  return { column with header, cells := ← column.cells.mapM Console.shown }

/-- Draws text without colours in so many cells. Of markup it knows the tags of styles, and a style that
cannot be read is no fault to it; handlers of clicks and names of emoji mean nothing. -/
def plainRenderer (cells : Nat) : Renderer MarkupFault where
  draw
    | .lines markup => return wrap .fold cells (← shown markup)
    | .panel title content => return panelLines (← shown title) (← shown content) cells
    | .table title columns => do
      let columns ← columns.mapM Column.shown
      return tableLines (← shown title) columns cells

def printReport (cells : Nat) (routes : Routes) (reader : Reader)
    (actions : Option (List (Option Action))) : Printed MarkupFault :=
  (plainRenderer cells).printReport routes reader actions

end RouteReport.Console
