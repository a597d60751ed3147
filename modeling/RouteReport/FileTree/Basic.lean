import RouteReport.FileTree.Path
import RouteReport.Text.Utf8
import RouteReport.Text.Quoted

namespace RouteReport

inductive FileTree where
  | file (content : Octets)
  | directory (entries : List (Text × FileTree))

inductive FileFault where
  | missing
  | isDirectory
  | notDirectory
  deriving DecidableEq, Repr

namespace FileFault

def number : FileFault → Nat
  | .missing => 2
  | .isDirectory => 21
  | .notDirectory => 20

def reason : FileFault → Text
  | .missing => "No such file or directory".toList
  | .isDirectory => "Is a directory".toList
  | .notDirectory => "Not a directory".toList

def message (fault : FileFault) (path : Text) : Text :=
  "[Errno ".toList ++ Text.ofNat fault.number ++ "] ".toList ++ fault.reason ++ ": ".toList ++
    path.quoted

end FileFault

namespace FileTree

def empty : FileTree := .directory []

def isDirectory : FileTree → Bool
  | .directory _ => true
  | .file _ => false

def entry? (tree : FileTree) (name : Text) : Option FileTree :=
  match tree with
  | .directory entries => entries.lookup name
  | .file _ => none

/-- Walks down the components; `above` holds the directories passed, for the way up. -/
def walk (tree : FileTree) (above : List FileTree) : List Text → Except FileFault FileTree
  | [] => .ok tree
  | name :: rest =>
    if !tree.isDirectory then .error .notDirectory
    else if name.isEmpty || name == ['.'] then walk tree above rest
    else if name == ['.', '.'] then
      match above with
      | parent :: above => walk parent above rest
      | [] => walk tree [] rest
    else match tree.entry? name with
      | some child => walk child (tree :: above) rest
      | none => .error .missing

/-- What an absolute path leads to; the empty path leads nowhere. -/
def find (tree : FileTree) (path : Text) : Except FileFault FileTree :=
  if path.isEmpty then .error .missing else walk tree [] (path.splitOn '/')

def isFileAt (tree : FileTree) (path : Text) : Bool :=
  match tree.find path with
  | .ok (.file _) => true
  | _ => false

def isDirectoryAt (tree : FileTree) (path : Text) : Bool :=
  match tree.find path with
  | .ok (.directory _) => true
  | _ => false

def existsAt (tree : FileTree) (path : Text) : Bool := (tree.find path).isOk

def fileContent (tree : FileTree) (path : Text) : Except FileFault Octets :=
  match tree.find path with
  | .ok (.file content) => .ok content
  | .ok (.directory _) => .error .isDirectory
  | .error fault => .error fault

def setEntry (entries : List (Text × FileTree)) (name : Text) (tree : FileTree) :
    List (Text × FileTree) :=
  if entries.any (·.1 == name) then
    entries.map fun entry => if entry.1 == name then (name, tree) else entry
  else entries ++ [(name, tree)]

def insert (tree : FileTree) (way : List Text) (leaf : FileTree) : FileTree :=
  match way with
  | [] => leaf
  | name :: rest =>
    let entries := match tree with
      | .directory entries => entries
      | .file _ => []
    .directory (setEntry entries name (insert ((entries.lookup name).getD empty) rest leaf))

def putFile (tree : FileTree) (path : Text) (content : Octets) : FileTree :=
  tree.insert (Path.components path) (.file content)

def makeDirectory (tree : FileTree) (path : Text) : FileTree :=
  if tree.isDirectoryAt path then tree else tree.insert (Path.components path) empty

end FileTree

end RouteReport
