import RouteReport.Cli.Request
import RouteReport.Console.Report
import RouteReport.Export
import RouteReport.Task.Run

/-! The command, from its words to what it prints, writes and answers. -/

namespace RouteReport.Cli

/-- What the command finds when it starts. -/
structure World where
  place : Place
  input : Octets
  taskVariable : Option Text
  process : ProcessResult

inductive Crash where
  | undecodable (fault : Utf8.DecodeError)
  | task (fault : TaskFault)
  | markup (fault : Console.MarkupFault)
  | unwritable (fault : FileFault) (path : Text)
  deriving DecidableEq, Repr

def Crash.message : Crash → Text
  | .undecodable fault => fault.message
  | .task fault => fault.message
  | .markup fault => fault.message
  | .unwritable fault path => fault.message path

inductive Stop where
  | exit (status : Nat)
  | crash (crash : Crash)

structure Effects where
  output : Text
  errors : Text
  written : Option (Text × Text)
  command : Option (List Text)
  inputIsRead : Bool

abbrev Run := ExceptT Stop (StateM Effects)

namespace Run

def printOutput (text : Text) : Run Unit :=
  modify fun effects => { effects with output := effects.output ++ text }

def printErrors (text : Text) : Run Unit :=
  modify fun effects => { effects with errors := effects.errors ++ text }

def log (isVerbose : Bool) (entries : Log) : Run Unit :=
  printErrors ((entries.filter fun entry => isVerbose || entry.level ≠ .debug).flatMap fun entry =>
    entry.line ++ ['\n'])

def crash (crash : Crash) : Run α := throw (.crash crash)

def exit (status : Nat) : Run α := throw (.exit status)

/-- The console has eighty columns. It keeps out of the way of a document on the output. -/
def console (format : Format) (printed : Console.Printed Console.MarkupFault) : Run Unit := do
  if format = .table then printOutput printed.text else printErrors printed.text
  match printed.fault with
  | some fault => crash (.markup fault)
  | none => return ()

def consoleWidth : Nat := 80

def printMarkup (format : Format) (markup : Text) : Run Unit :=
  console format ((Console.plainRenderer consoleWidth).print [.lines markup])

def fail (format : Format) (message : Text) : Run α := do
  printMarkup format (Console.styled "red" "Error:".toList ++ ' ' :: message)
  exit 1

def readSource (world : World) (source : Source) : Run Text := do
  let octets ← match source with
    | .file content => pure content
    | .input => do
      let isRead := (← get).inputIsRead
      modify fun effects => { effects with inputIsRead := true }
      pure (if isRead then [] else world.input)
  match Utf8.decode octets with
  | .ok text => return text.unifyLineEnds
  | .error fault => crash (.undecodable fault)

def outputs (world : World) (request : Request) : Run (Text × Option Text) := do
  if !request.run.isEmpty then
    let root := Path.absolute world.place.directory request.run
    let task : RoutesTask := ⟨root, request.task, [], RoutesTask.defaultTimeout⟩
    let done := task.run world.place.disk world.process
    modify fun effects => { effects with command := done.started }
    log request.isVerbose done.log
    match done.result with
    | .ok (output, errors) => return (output, some errors)
    | .error fault =>
      if fault.isRunFault then fail request.format fault.message else crash (.task fault)
  else match request.source with
    | none => do
      printErrors UsageFault.noSource.text
      exit 2
    | some source => do
      let output ← readSource world source
      match request.errorSource with
      | none => return (output, none)
      | some source => return (output, some (← readSource world source))

def application (world : World) (request : Request) : Run (Option App) := do
  let path := if request.app.isEmpty then request.run else request.app
  if path.isEmpty then return none
  let (app, entries) := App.openAt world.place.disk world.place.directory path
  log request.isVerbose entries
  match app with
  | .ok app => return some app
  | .error fault => fail request.format fault.message

def resolveAll (world : World) (request : Request) (app : App) (routes : Routes) :
    Run (List (Option Action)) := do
  let lookups : Lookups (Except Empty) := app.lookups world.place.directory
  let found := Export.actionsOf lookups routes
  log request.isVerbose (found.flatMap fun outcome => (outcome.map (·.log)).getD [])
  return found.map (·.map (·.action))

def writeText (world : World) (name content : Text) : Run Unit := do
  let path := world.place.pathOf name
  let place := path.dropRightWhile (· == '/')
  match world.place.disk.walk [] (place.splitOn '/').dropLast with
  | .ok (.directory _) =>
    if place != path || world.place.disk.isDirectoryAt path then
      crash (.unwritable .isDirectory name)
    modify fun effects => { effects with written := some (path, content) }
  | .ok (.file _) => crash (.unwritable .notDirectory name)
  | .error fault => crash (.unwritable fault name)

def listRoutes (world : World) (request : Request) : Run Unit := do
  let (output, errors) ← outputs world request
  let app ← application world request
  let new := Reader.new none
  let (reader, all) := new.read output errors
  log request.isVerbose (new.readLog output errors)
  let routes := Routes.matching all request.query
  let actions ← app.mapM fun app => resolveAll world request app routes
  if request.format = .table then
    console .table (Console.printReport consoleWidth routes reader actions)
  else
    let document := Export.document routes (some reader) actions
    let content := if request.format = .json then Document.Json.encode document
      else Document.Yaml.encode document
    if request.output.isEmpty then printOutput (content ++ ['\n'])
    else
      writeText world request.output content
      printMarkup request.format
        (Console.styled "green" ['✓'] ++ " Routes written to: ".toList ++ request.output)
  if reader.failure.isReported then exit 1

def start (world : World) (line : List Text) : Run Unit :=
  let task := match world.taskVariable with
    | some name => if name.isEmpty then RoutesTask.defaultName else name
    | none => RoutesTask.defaultName
  match Command.read world.place task line with
  | .ok .help => printOutput helpText
  | .ok .version => printOutput versionText
  | .ok (.listRoutes request) => listRoutes world request
  | .error fault => do
    printErrors fault.text
    exit 2

end Run

structure Outcome where
  status : Nat
  crash : Option Crash
  effects : Effects

def runCommand (world : World) (line : List Text) : Outcome :=
  let (result, effects) := (Run.start world line).run.run ⟨[], [], none, none, false⟩
  match result with
  | .ok () => ⟨0, none, effects⟩
  | .error (.exit status) => ⟨status, none, effects⟩
  | .error (.crash crash) => ⟨1, some crash, effects⟩

end RouteReport.Cli
