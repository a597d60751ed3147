import RouteReport.Cli.Usage

namespace RouteReport.Cli

inductive Format where
  | table
  | yaml
  | json
  deriving DecidableEq, Repr

def Format.ofName? (name : Text) : Option Format :=
  if name == "table".toList then some .table
  else if name == "yaml".toList then some .yaml
  else if name == "json".toList then some .json
  else none

inductive Source where
  | input
  | file (content : Octets)
  deriving DecidableEq, Repr

/-- What the command is asked to do. An empty directory or file name counts as none. -/
structure Request where
  source : Option Source
  errorSource : Option Source
  run : Text
  app : Text
  task : Text
  query : Text
  format : Format
  output : Text
  isVerbose : Bool
  deriving DecidableEq, Repr

inductive Command where
  | help
  | version
  | listRoutes (request : Request)
  deriving DecidableEq, Repr

structure Place where
  disk : FileTree
  directory : Text

namespace Place

def pathOf (place : Place) (name : Text) : Text :=
  if name.isEmpty then [] else Path.join place.directory name

def openSource (place : Place) (parameter : String) (name : Text) : Except UsageFault Source :=
  if name == ['-'] then .ok .input
  else match place.disk.fileContent (place.pathOf name) with
    | .ok content => .ok (.file content)
    | .error fault => .error (.unreadable parameter name fault)

def checkNoFile (place : Place) (parameter : String) (name : Text) : Except UsageFault Unit :=
  if place.disk.isFileAt (place.pathOf name) then .error (.notADirectory parameter name) else .ok ()

def checkDirectory (place : Place) (parameter : String) (name : Text) : Except UsageFault Unit :=
  if place.disk.existsAt (place.pathOf name) then place.checkNoFile parameter name
  else .error (.noDirectory parameter name)

def checkNoDirectory (place : Place) (parameter : String) (name : Text) : Except UsageFault Unit :=
  if place.disk.isDirectoryAt (place.pathOf name) then .error (.notAFile parameter name) else .ok ()

end Place

namespace Request

def withOption (place : Place) (words : Words) (request : Request) (option : OptionName) :
    Except UsageFault Request := do
  let value := (words.value? option).getD []
  match option with
  | .stderr => return { request with errorSource := some (← place.openSource "'--stderr'" value) }
  | .run => do
    place.checkNoFile "'--run'" value
    return { request with run := value }
  | .app => do
    place.checkDirectory "'--app'" value
    return { request with app := value }
  | .task => return { request with task := value }
  | .filter => return { request with query := value }
  | .format =>
    match Format.ofName? value with
    | some format => return { request with format }
    | none => throw (.unknownFormat value)
  | .output => do
    place.checkNoDirectory "'--output' / '-o'" value
    return { request with output := value }
  | .verbose => return { request with isVerbose := true }
  | .version | .help => return request

def withSource (place : Place) (request : Request) : List Text → Except UsageFault Request
  | [] => .ok request
  | name :: others => do
    let source ← place.openSource "'[SOURCE]'" name
    if others.isEmpty then return { request with source := some source }
    else throw (.extraArguments others)

end Request

/-- Values are checked in the order of the options, the source after them and the number of the
arguments last. Asking for help or for the version comes before all that. -/
def Command.read (place : Place) (defaultTask : Text) (line : List Text) :
    Except UsageFault Command := do
  let words ← (Words.read line).mapError .badSyntax
  match words.order.find? fun option => option = .help || option = .version with
  | some .help => return .help
  | some _ => return .version
  | none =>
    let start : Request := ⟨none, none, [], [], defaultTask, [], .table, [], false⟩
    let request ← words.order.foldlM (Request.withOption place words) start
    return .listRoutes (← request.withSource place words.arguments)

end RouteReport.Cli
