import RouteReport.FileTree.Basic
import RouteReport.Text.Blank
import RouteReport.Text.Lines
import RouteReport.Text.Word

/-! The framework version that an application declares, in its lock file or in its list of gems. -/

namespace RouteReport

inductive VersionFault where
  | undecodable (fault : Utf8.DecodeError)
  | tooManyDigits (count : Nat)
  deriving DecidableEq, Repr

namespace VersionFault

def digitLimit : Nat := 4300

def message : VersionFault → Text
  | .undecodable fault => fault.message
  | .tooManyDigits count =>
    "Exceeds the limit (".toList ++ Text.ofNat digitLimit ++
      " digits) for integer string conversion: value has ".toList ++ Text.ofNat count ++
      " digits; use sys.set_int_max_str_digits() to increase the limit".toList

end VersionFault

structure Framework where
  isUsed : Bool
  version : Option Text
  deriving DecidableEq, Repr

namespace Framework

def lockedVersion? (text : Text) : Option Text := do
  let rest ← text.afterPrefix? [' ', '(']
  let (major, rest) := Text.run rest Text.isDigit
  let rest ← Text.afterPrefix? rest ['.']
  guard (!major.isEmpty && rest.head?.any Text.isDigit)
  let (minor, rest) := Text.run rest (· != ')')
  guard (!rest.isEmpty)
  return major ++ '.' :: minor

def entryVersion? (text : Text) : Option Text :=
  (text.afterPrefix? "railties".toList >>= lockedVersion?) <|>
    (text.afterPrefix? "rails".toList >>= lockedVersion?)

/-- The first entry that stands after white space with a line start before it. -/
def lockVersionFrom? (atLineStart isIndented : Bool) : Text → Option Text
  | [] => none
  | c :: rest =>
    if Text.isBlank c then lockVersionFrom? (c == '\n') (isIndented || atLineStart) rest
    else (if isIndented then entryVersion? (c :: rest) else none) <|>
      lockVersionFrom? false false rest

def lockVersion? (lock : Text) : Option Text := lockVersionFrom? true false lock

def isQuote (c : Char) : Bool := c == '\'' || c == '"'

def quotedText? (text : Text) : Option Text :=
  match text with
  | quote :: rest =>
    let (body, tail) := Text.run rest (!isQuote ·)
    if isQuote quote && !body.isEmpty && !tail.isEmpty then some body else none
  | [] => none

/-- What follows the word `gem`: a gem of the framework, and its version if one is given. -/
def gemDeclaration? (text : Text) : Option Framework := do
  let (gap, rest) := Text.run text Text.isBlank
  guard (!gap.isEmpty)
  match rest with
  | quote :: rest =>
    guard (isQuote quote)
    let rest ← (Text.afterPrefix? rest "rails".toList).filter (·.head?.any isQuote) <|>
      (Text.afterPrefix? rest "railties".toList).filter (·.head?.any isQuote)
    let afterGem := Text.trimLeft (rest.drop 1)
    let version := (Text.afterPrefix? afterGem [',']) >>= fun rest => quotedText? rest.trimLeft
    return ⟨true, version⟩
  | [] => none

def declaration? : Text → Option Framework
  | [] => none
  | c :: rest =>
    (Text.afterPrefix? (c :: rest) "gem".toList >>= gemDeclaration?) <|> declaration? rest

def readText (disk : FileTree) (path : Text) : Except VersionFault (Option Text) :=
  match disk.fileContent path with
  | .error _ => .ok none
  | .ok content =>
    match Utf8.decode content with
    | .ok text => .ok (some text.unifyLineEnds)
    | .error fault => .error (.undecodable fault)

/-- The lock file has the exact version and comes first. -/
def detect (disk : FileTree) (root : Text) : Except VersionFault Framework := do
  let lock ← readText disk (Path.join root "Gemfile.lock".toList)
  match lock >>= lockVersion? with
  | some version => return ⟨true, some version⟩
  | none =>
    let gems ← readText disk (Path.join root "Gemfile".toList)
    return (gems >>= declaration?).getD ⟨false, none⟩

def majorVersion (version : Option Text) : Except VersionFault (Option Nat) :=
  let digits := ((version.getD []).dropWhile (!Text.isDigit ·)).takeWhile Text.isDigit
  if digits.isEmpty then .ok none
  else if VersionFault.digitLimit < digits.length then .error (.tooManyDigits digits.length)
  else .ok (some (digits.foldl (fun n c => n * 10 + (Text.digitValue? c).getD 0) 0))

end Framework

end RouteReport
