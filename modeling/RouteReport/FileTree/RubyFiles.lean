import RouteReport.FileTree.Basic

/-! The Ruby files of a tree in a fixed order: those of a directory by name, then those of its
subdirectories, again by name. -/

namespace RouteReport

structure SourceFile where
  path : Text
  content : Octets

namespace FileTree

def sortByName (entries : List (Text × α)) : List (Text × α) :=
  entries.mergeSort fun a b => Text.le a.1 b.1

/-- A directory is left out by its name or by its path below the root. -/
def isExcluded (excluded : List Text) (way : List Text) (name : Text) : Bool :=
  excluded.contains name || excluded.contains (Text.join ['/'] (way ++ [name]))

def rubyFilesOf (path : Text) (entries : List (Text × FileTree)) : List (Text × SourceFile) :=
  entries.filterMap fun (name, tree) =>
    match tree with
    | .file content =>
      if ".rb".toList.isSuffixOf name then some (name, ⟨Path.join path name, content⟩) else none
    | .directory _ => none

mutual

def rubyFilesIn (excluded : List Text) (path : Text) (way : List Text) : FileTree → List SourceFile
  | .file _ => []
  | .directory entries =>
    (sortByName (rubyFilesOf path entries)).map (·.2) ++
      (sortByName (rubyFilesBelow excluded path way entries)).flatMap (·.2)

def rubyFilesBelow (excluded : List Text) (path : Text) (way : List Text) :
    List (Text × FileTree) → List (Text × List SourceFile)
  | [] => []
  | (name, tree) :: rest =>
    let others := rubyFilesBelow excluded path way rest
    if tree.isDirectory && !isExcluded excluded way name then
      (name, rubyFilesIn excluded (Path.join path name) (way ++ [name]) tree) :: others
    else others

end

/-- The Ruby files at and below a directory, named from `path`. -/
def rubyFiles (tree : FileTree) (excluded : List Text) (path : Text) : List SourceFile :=
  rubyFilesIn excluded path [] tree

end FileTree

end RouteReport
