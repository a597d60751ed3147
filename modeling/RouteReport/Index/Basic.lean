import RouteReport.FileTree.Path
import RouteReport.Naming.Constant
import RouteReport.Ruby.Node
import RouteReport.Text.Blank
import RouteReport.Text.Case

namespace RouteReport

open Ruby (ContainerKind)

inductive Visibility where
  | publicMethod
  | protectedMethod
  | privateMethod
  deriving DecidableEq, Repr

namespace Visibility

def all : List Visibility := [.publicMethod, .protectedMethod, .privateMethod]

def name : Visibility → Text
  | .publicMethod => "public".toList
  | .protectedMethod => "protected".toList
  | .privateMethod => "private".toList

def ofName? (name : Text) : Option Visibility := all.find? (·.name == name)

end Visibility

structure Method where
  name : Text
  ownerKind : ContainerKind
  owner : Text
  visibility : Visibility
  requiredParams : Nat
  file : Text
  line : Nat
  deriving DecidableEq, Repr

def Method.qualifiedName (method : Method) : Text := method.owner ++ '#' :: method.name

structure Container where
  kind : ContainerKind
  qualifiedName : Text
  superclass : Option Text
  /-- In the order of application: a later module shadows an earlier one. -/
  includes : List Text
  files : List Text
  definitions : List Method
  deriving DecidableEq, Repr

namespace Container

def new (kind : ContainerKind) (qualifiedName : Text) : Container :=
  ⟨kind, qualifiedName, none, [], [], []⟩

def name (container : Container) : Text := baseName container.qualifiedName

def namespaceName (container : Container) : Text := namespaceOf container.qualifiedName

def definitionsOf (container : Container) (name : Text) : List Method :=
  container.definitions.filter (·.name == name)

def methods (container : Container) : List (Text × List Method) :=
  (container.definitions.map (·.name)).eraseDups.map fun name => (name, container.definitionsOf name)

/-- The definition that an action of this name runs: the last one without required parameters, else
the last one. -/
def method? (container : Container) (name : Text) : Option Method :=
  let all := container.definitionsOf name
  (all.filter (·.requiredParams == 0)).getLast? <|> all.getLast?

def setVisibility (container : Container) (name : Text) (visibility : Visibility) : Container :=
  { container with
    definitions := container.definitions.map fun method =>
      if method.name == name then { method with visibility } else method }

/-- Some file of the container lies below the directory. Relative names start at `base`. -/
def isDefinedUnder (container : Container) (directory : Text) (base : Text := ['/']) : Bool :=
  let place := Path.asDirectory (Path.absolute base directory)
  container.files.any fun file => place.isPrefixOf (Path.absolute base file)

def describe (container : Container) : Text :=
  let kind := match container.kind with
    | .classKind => "RubyClass"
    | .moduleKind => "RubyModule"
  '<' :: kind.toList ++ ' ' :: container.qualifiedName ++ ['>']

end Container

/-- Entries in the order in which they first appear, one for each qualified name. -/
abbrev ContainerTable := List Container

namespace ContainerTable

def get? (table : ContainerTable) (name : Text) : Option Container :=
  table.find? (·.qualifiedName == name)

def change (table : ContainerTable) (kind : ContainerKind) (name : Text)
    (update : Container → Container) : ContainerTable :=
  match table with
  | [] => [update (.new kind name)]
  | entry :: rest =>
    if entry.qualifiedName == name then update entry :: rest
    else entry :: change rest kind name update

/-- The entry of a name, or else the first whose name is the same but for case. White space around
the name and a leading `::` do not count. -/
def lookup? (table : ContainerTable) (name : Text) : Option Container :=
  let trimmed := name.trim
  let name := (trimmed.afterPrefix? scopeMark).getD trimmed
  if name.isEmpty then none
  else table.get? name <|> table.find? fun entry => Text.lower entry.qualifiedName == name.lower

end ContainerTable

structure Index where
  classes : ContainerTable
  modules : ContainerTable
  deriving DecidableEq, Repr

namespace Index

def empty : Index := ⟨[], []⟩

def class? (index : Index) (name : Text) : Option Container := index.classes.lookup? name

def module? (index : Index) (name : Text) : Option Container := index.modules.lookup? name

def change (index : Index) (kind : ContainerKind) (name : Text) (update : Container → Container) :
    Index :=
  match kind with
  | .classKind => { index with classes := index.classes.change kind name update }
  | .moduleKind => { index with modules := index.modules.change kind name update }

end Index

end RouteReport
