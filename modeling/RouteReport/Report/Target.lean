import RouteReport.Route.Basic

namespace RouteReport

structure Endpoint where
  controller : Text
  action : Text
  deriving DecidableEq, Repr

namespace Endpoint

def isQuote (c : Char) : Bool := c == '\'' || c == '"'

/-- The value that follows a key: an arrow, then a quoted text that is not empty. -/
def valueAfterKey? (text : Text) : Option Text := do
  let value ← (Text.trimLeft text).afterPrefix? ['=', '>']
  match Text.trimLeft value with
  | quote :: first :: rest =>
    guard (isQuote quote && first != '\n')
    let (body, tail) := Text.run rest fun c => !isQuote c && c != '\n'
    guard (tail.head?.any isQuote)
    return first :: body
  | _ => none

def valueOf? (key : Text) : Text → Option Text
  | [] => none
  | c :: rest => (Text.afterPrefix? (c :: rest) key >>= valueAfterKey?) <|> valueOf? key rest

def startsRack (c : Char) : Bool := Text.isAsciiUpper c || c == '_'

def inRack (c : Char) : Bool :=
  Text.isAsciiLetter c || Text.isAsciiDigit c || c == '_' || c == ':' || c == '/'

/-- The first name of two characters or more that can be a class to mount. -/
def rackName? : Text → Option Text
  | [] => none
  | c :: rest =>
    if startsRack c && rest.head?.any inRack then some (c :: rest.takeWhile inRack)
    else rackName? rest

def beforeClause? : Text → Option Text
  | [] => none
  | c :: rest =>
    if c == '{' && !rest.isEmpty && !rest.contains '\n' then some []
    else (beforeClause? rest).map (c :: ·)

def withoutClause (action : Text) : Text :=
  match (Text.trimRight action).beforeSuffix? ['}'] with
  | some body => Text.trim ((beforeClause? body).getD action)
  | none => action.trim

/-- Reads `users#show {…}`, `{:controller => "users", :action => "show"}` and bare constants. -/
def ofTarget (target : Text) : Endpoint :=
  if isRedirectTarget target then ⟨[], []⟩
  else match target.cut? ['#'] with
    | some (controller, action) => ⟨controller.trim, withoutClause action⟩
    | none =>
      let controller := (valueOf? ":controller".toList target <|> rackName? target).getD []
      ⟨controller, (valueOf? ":action".toList target).getD []⟩

end Endpoint

end RouteReport
