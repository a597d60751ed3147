import RouteReport.Text.Blank

namespace RouteReport

structure Columns where
  name : Text
  verbs : Text
  path : Text
  target : Text
  deriving DecidableEq, Repr

namespace Columns

def isNameChar (c : Char) : Bool := Text.isAsciiLower c || Text.isAsciiDigit c || c == '_'

def isVerbChar (c : Char) : Bool := Text.isAsciiUpper c || c == '|'

/-- White space long enough to give away a character for a target of its own. -/
def sparesTarget (gap : Text) : Bool :=
  match gap.reverse with
  | '\n' :: c :: _ :: _ => c != '\n'
  | c :: _ :: _ => c != '\n'
  | _ => false

def target? (text : Text) : Option Text :=
  let (gap, target) := Text.run text Text.isBlank
  if target.isEmpty then if sparesTarget gap then some [] else none
  else if ((Text.beforeSuffix? target ['\n']).getD target).contains '\n' then none
  else some target.trim

def pathAndTarget? (name verbs text : Text) : Option Columns :=
  let (path, rest) := Text.run text (!Text.isBlank ·)
  if path.isEmpty then none
  else (target? rest).map fun target => ⟨name, verbs, path, target⟩

def withVerbs? (name text : Text) : Option Columns :=
  let (verbs, rest) := Text.run text.trimLeft isVerbChar
  if verbs.isEmpty || !rest.head?.any Text.isBlank then none
  else pathAndTarget? name verbs rest.trimLeft

def withoutVerbs? (name text : Text) : Option Columns :=
  if text.head?.any Text.isBlank then pathAndTarget? name [] text.trimLeft else none

def afterName? (name text : Text) : Option Columns := withVerbs? name text <|> withoutVerbs? name text

/-- A line has a name if it can, and verbs if that name leaves them. -/
def ofLine? (line : Text) : Option Columns :=
  let (name, rest) := Text.run line.trimLeft isNameChar
  (if name.isEmpty then none else afterName? name rest) <|> afterName? [] line

end Columns

end RouteReport
