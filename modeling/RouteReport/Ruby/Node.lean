import RouteReport.Text.Utf8

/-! Ruby source as far as its definitions go: classes, modules, methods and receiver-less calls. -/

namespace RouteReport.Ruby

inductive ContainerKind where
  | classKind
  | moduleKind
  deriving DecidableEq, Repr

structure MethodHead where
  name : Octets
  line : Nat
  requiredParams : Nat
  deriving DecidableEq, Repr

/-- A statement or an argument with its source text. A call has no receiver; a name alone is a call
without arguments. -/
inductive Node where
  | container (text : Octets) (kind : ContainerKind) (name : Octets) (superclass : Option Octets)
      (body : List Node)
  | method (text : Octets) (head : MethodHead)
  | call (text : Octets) (name : Octets) (args : List Node)
  | constant (text : Octets)
  | scopePath (text : Octets)
  | other (text : Octets)
  deriving Repr

namespace Node

def text : Node → Octets
  | .container text _ _ _ _ => text
  | .method text _ => text
  | .call text _ _ => text
  | .constant text => text
  | .scopePath text => text
  | .other text => text

def kindName : Node → String
  | .container _ .classKind _ _ _ => "class"
  | .container _ .moduleKind _ _ _ => "module"
  | .method _ _ => "method"
  | .call _ _ _ => "other"
  | .constant _ => "constant"
  | .scopePath _ => "scope_resolution"
  | .other _ => "other"

def isConstantPath : Node → Bool
  | .constant _ => true
  | .scopePath _ => true
  | _ => false

end Node

/-- What reads the statements of a source, outside all definitions. -/
abbrev Parser := Octets → List Node

/-- The name a symbol stands for: the text after the colon without quotes around it. -/
def symbolName? (text : Text) : Option Text :=
  match text with
  | ':' :: rest =>
    let isQuote (c : Char) := c == '\'' || c == '"'
    some (Text.dropRightWhile (rest.dropWhile isQuote) isQuote)
  | _ => none

end RouteReport.Ruby
