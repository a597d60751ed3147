import RouteReport.Index.Basic
import RouteReport.Log
import RouteReport.Ruby.Node

/-! What a source says about the containers it opens, one event after the other. -/

namespace RouteReport

open Ruby (ContainerKind Node)

inductive Fact where
  | opened
  | inherits (superclass : Text)
  | located (file : Text)
  | includes (names : List Text)
  | defines (method : Method)
  | declares (method : Text) (visibility : Visibility)
  deriving DecidableEq, Repr

/-- A fact about the container of a kind and a qualified name. -/
structure Event where
  kind : ContainerKind
  name : Text
  fact : Fact
  deriving DecidableEq, Repr

/-- The events up to the end of a source, or up to a text in it that cannot be decoded. -/
structure Trace where
  events : List Event
  fault : Option Utf8.DecodeError
  deriving DecidableEq, Repr

namespace Trace

def none : Trace := ⟨[], .none⟩

def one (event : Event) : Trace := ⟨[event], .none⟩

def followedBy (first second : Trace) : Trace :=
  if first.fault.isSome then first else ⟨first.events ++ second.events, second.fault⟩

def ofDecoded (octets : Octets) (next : Text → Trace) : Trace :=
  match Utf8.decode octets with
  | .ok text => next text
  | .error fault => ⟨[], some fault⟩

def join (traces : List Trace) : Trace := traces.foldr followedBy none

end Trace

structure Body where
  kind : ContainerKind
  name : Text
  file : Text

namespace Body

def event (body : Body) (fact : Fact) : Trace := .one ⟨body.kind, body.name, fact⟩

def definition (body : Body) (visibility : Visibility) (head : Ruby.MethodHead) : Trace :=
  .ofDecoded head.name fun name =>
    body.event (.defines
      ⟨name, body.kind, body.name, visibility, head.requiredParams, body.file, head.line⟩)

/-- `include A, B` puts `A` in front of `B`, so the arguments apply from the last to the first. -/
def inclusion (body : Body) (args : List Node) : Trace :=
  match (args.filter (·.isConstantPath)).mapM fun arg => Utf8.decode arg.text with
  | .ok names => body.event (.includes (names.map Text.trim).reverse)
  | .error fault => ⟨[], some fault⟩

def declaration (body : Body) (visibility : Visibility) (arg : Node) : Trace :=
  match arg with
  | .method _ head => body.definition visibility head
  | arg => .ofDecoded arg.text fun text =>
    match Ruby.symbolName? text with
    | some name => if name.isEmpty then .none else body.event (.declares name visibility)
    | none => .none

end Body

/-- A keyword without arguments sets the visibility of the definitions after it. -/
def sectionAfter (current : Visibility) : Node → Visibility
  | .call _ name [] =>
    match Utf8.decode name with
    | .ok name => (Visibility.ofName? name).getD current
    | .error _ => current
  | _ => current

def Body.call (body : Body) (name : Octets) (args : List Node) : Trace :=
  .ofDecoded name fun name =>
    if name == "include".toList then body.inclusion args
    else match Visibility.ofName? name with
      | some visibility => .join (args.map (body.declaration visibility))
      | none => .none

/-- An absolute name stands for itself, another one is inside the namespace. -/
def qualifiedNameIn (namespaceName name : Text) : Text :=
  match name.afterPrefix? scopeMark with
  | some absolute => absolute
  | none => if namespaceName.isEmpty then name else namespaceName ++ scopeMark ++ name

def Body.inheritance (body : Body) (superclass : Option Octets) : Trace :=
  match body.kind, superclass with
  | .classKind, some octets => .ofDecoded octets fun text =>
    let name := Text.trim text
    if name.isEmpty then .none else body.event (.inherits name)
  | _, _ => .none

def Body.location (body : Body) : Trace :=
  if body.file.isEmpty then .none else body.event (.located body.file)

mutual

def Node.trace (file namespaceName : Text) : Node → Trace
  | .container _ kind name superclass statements =>
    .ofDecoded name fun name =>
      let body : Body := ⟨kind, qualifiedNameIn namespaceName name.trim, file⟩
      (body.event .opened).followedBy <| (body.inheritance superclass).followedBy <|
        body.location.followedBy <| bodyTrace body .publicMethod statements
  | _ => .none

/-- Statements that are neither definitions nor calls say nothing, and neither does what they hold. -/
def bodyTrace (body : Body) (visibility : Visibility) : List Node → Trace
  | [] => .none
  | statement :: rest =>
    let said := match statement with
      | .method _ head => body.definition visibility head
      | .call _ name args => body.call name args
      | statement => Node.trace body.file body.name statement
    said.followedBy (bodyTrace body (sectionAfter visibility statement) rest)

end

def traceOf (file : Text) (statements : List Node) : Trace :=
  .join (statements.map (Node.trace file []))

end RouteReport
