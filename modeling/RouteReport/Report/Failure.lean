import RouteReport.Text.Blank

namespace RouteReport

inductive FailureCode where
  | none
  | general
  | taskNotFound
  deriving DecidableEq, Repr

namespace FailureCode

def number : FailureCode → Int
  | .none => 0
  | .general => -1
  | .taskNotFound => -2

def name : FailureCode → Text
  | .none => "NONE".toList
  | .general => "GENERAL".toList
  | .taskNotFound => "TASK_NOT_FOUND".toList

end FailureCode

structure Failure where
  code : FailureCode
  trace : Text
  deriving DecidableEq, Repr

namespace Failure

def absent : Failure := ⟨.none, []⟩

def isReported (failure : Failure) : Bool := failure.code ≠ .none

def missingTaskMark : Text := "Don't know how to".toList

def abortMark : Text := "rake aborted!".toList

def tasksMark : Text := "Tasks:".toList

def withoutNoise (text : Text) : Text :=
  Text.join ['\n'] ((text.splitOn '\n').map fun line =>
    if ['*', '*'].isPrefixOf line then [] else line)

/-- The message between the abort and the list of tasks; at least one character stands there. -/
def abortMessage? (text : Text) : Option Text := do
  let (_, after) ← text.cut? abortMark
  let (gap, body) := Text.run after Text.isBlank
  match body with
  | [] => none
  | c :: rest =>
    ((Text.cut? rest tasksMark).map fun (message, _) => Text.trim (c :: message)) <|>
      (if !gap.isEmpty && tasksMark.isPrefixOf body then some [] else none)

/-- The failure that the error output tells of; blank output tells of none. -/
def ofErrorOutput (output : Option Text) : Failure :=
  match output with
  | none => absent
  | some text =>
    let clean := (withoutNoise text).trim
    if clean.isEmpty then absent
    else if clean.holds missingTaskMark then ⟨.taskNotFound, clean⟩
    else ⟨.general, (abortMessage? clean).getD clean⟩

end Failure

end RouteReport
