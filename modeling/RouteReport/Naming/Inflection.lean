import RouteReport.Naming.Constant
import RouteReport.Text.Blank
import RouteReport.Text.Case

namespace RouteReport

/-- A word starts at a capital that follows a small letter or a digit, and at the last capital of a
run that goes on with a small letter. -/
def wordStarts (before c : Char) (next : Option Char) : Bool :=
  Text.isAsciiUpper c &&
    (Text.isAsciiLower before || Text.isDigit before ||
      (Text.isAsciiUpper before && next.any Text.isAsciiLower))

def separateWords : Text → Text
  | a :: b :: rest =>
    if wordStarts a b rest.head? then a :: '_' :: separateWords (b :: rest)
    else a :: separateWords (b :: rest)
  | short => short

def underscore (camel : Text) : Text :=
  let separated : Text := (separateWords camel).map fun c => if c == '-' then '_' else c
  (separated.replaceAll scopeMark ['/']).lower

def camelizeSegment (segment : Text) : Text :=
  (segment.splitOn '_').flatMap Text.capitalize

def camelize (snake : Text) : Text :=
  Text.join scopeMark ((snake.splitOn '/').map camelizeSegment)

def controllerSuffix : Text := "Controller".toList

def controllerClassName (controller : Text) : Text := camelize controller ++ controllerSuffix

/-- The controller a class name stands for: a constant path that ends in `Controller`, with
something before that suffix in its last segment. -/
def controllerOfClass? (className : Text) : Option Text := do
  let name : Text := className.trim.dropWhile (· == ':')
  guard (isConstantName name)
  let stem ← name.beforeSuffix? controllerSuffix
  guard (!stem.isEmpty && !scopeMark.isSuffixOf stem)
  return underscore stem

end RouteReport
