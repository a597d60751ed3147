import RouteReport.Index.Build
import RouteReport.Naming.Inflection

namespace RouteReport

structure App where
  root : Text
  index : Index

namespace App

def controllersDirectory (app : App) : Text :=
  Path.join (Path.join app.root "app".toList) "controllers".toList

/-- The class of a controller of this application. Classes from elsewhere, such as those of engines
and libraries, do not count. Files with relative names are sought from `base`. -/
def controller? (app : App) (controller : Text) (base : Text := ['/']) : Option Container :=
  if controller.isEmpty then none
  else (app.index.class? (controllerClassName controller)).filter
    (·.isDefinedUnder app.controllersDirectory base)

inductive OpenFault where
  | noDirectory (path : Text)
  | undecodable (fault : Utf8.DecodeError)
  deriving DecidableEq, Repr

def OpenFault.message : OpenFault → Text
  | .noDirectory path => "Path does not exist: ".toList ++ path
  | .undecodable fault => fault.message

def openAt (disk : FileTree) (base path : Text) (parse : Ruby.Parser := Ruby.read) :
    Except OpenFault App × Log :=
  let root := Path.absolute base path
  match disk.find root with
  | .ok (.directory entries) =>
    let files := (FileTree.directory entries).rubyFiles Index.defaultExclusions root
    let start : LogEntry := ⟨.info, "Indexing Ruby sources in ".toList ++ root ++ " ...".toList⟩
    match Index.empty.addFiles files parse with
    | .ok index => (.ok ⟨root, index⟩, start :: index.buildLog files.length)
    | .error fault => (.error (.undecodable fault), [start])
  | _ => (.error (.noDirectory root), [])

end App

end RouteReport
