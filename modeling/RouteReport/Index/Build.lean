import RouteReport.FileTree.RubyFiles
import RouteReport.Index.Event
import RouteReport.Ruby.Reading

namespace RouteReport

def Fact.update (fact : Fact) (container : Container) : Container :=
  match fact with
  | .opened => container
  | .inherits superclass => { container with superclass := container.superclass <|> some superclass }
  | .located file =>
    if container.files.contains file then container
    else { container with files := container.files ++ [file] }
  | .includes names => { container with includes := container.includes ++ names }
  | .defines method => { container with definitions := container.definitions ++ [method] }
  | .declares method visibility => container.setVisibility method visibility

namespace Index

def apply (index : Index) (event : Event) : Index :=
  index.change event.kind event.name event.fact.update

/-- What the events say stays in the index also when a fault ends them. -/
def addTrace (index : Index) (trace : Trace) : Index := trace.events.foldl apply index

def addStatements (index : Index) (file : Text) (statements : List Ruby.Node) :
    Index × Option Utf8.DecodeError :=
  let trace := traceOf file statements
  (index.addTrace trace, trace.fault)

-- The parser is the caller's to choose; where none is given it is the program's own.

def addSource (index : Index) (file : Text) (source : Octets) (parse : Ruby.Parser := Ruby.read) :
    Index × Option Utf8.DecodeError :=
  index.addStatements file (parse source)

/-- A file that cannot be read leaves the index as it is, with a warning. A relative path starts at `base`. -/
def addFile (index : Index) (tree : FileTree) (path : Text) (base : Text := ['/'])
    (parse : Ruby.Parser := Ruby.read) : Index × Option Utf8.DecodeError × Log :=
  match tree.fileContent (Path.absolute base path) with
  | .ok source =>
    let (index, fault) := index.addSource path source parse
    (index, fault, [])
  | .error fault =>
    (index, none,
      [⟨.warning, "Cannot read ".toList ++ path ++ ": ".toList ++ fault.message path⟩])

def defaultExclusions : List Text :=
  [".git", "node_modules", "tmp", "log", "public", "coverage", "vendor/bundle"].map String.toList

def addFiles (index : Index) (files : List SourceFile) (parse : Ruby.Parser := Ruby.read) :
    Except Utf8.DecodeError Index :=
  match files with
  | [] => .ok index
  | file :: rest =>
    match index.addSource file.path file.content parse with
    | (index, none) => addFiles index rest parse
    | (_, some fault) => .error fault

/-- The index of all Ruby files at and below a directory; `tree` is what the path leads to. -/
def build (tree : FileTree) (excluded : List Text) (path : Text) (parse : Ruby.Parser := Ruby.read) :
    Except Utf8.DecodeError Index :=
  empty.addFiles (tree.rubyFiles excluded path) parse

def buildLog (index : Index) (fileCount : Nat) : Log :=
  [⟨.debug, "Indexed ".toList ++ Text.ofNat fileCount ++ " Ruby files: ".toList ++
    Text.ofNat index.classes.length ++ " classes, ".toList ++
    Text.ofNat index.modules.length ++ " modules".toList⟩]

end Index

end RouteReport
