import RouteReport.Log
import RouteReport.Task.Version

namespace RouteReport

structure Seconds where
  units : Int
  places : Nat
  deriving DecidableEq, Repr

def Seconds.text (time : Seconds) : Text :=
  let digits := Text.ofNat time.units.natAbs
  let digits := List.replicate (time.places + 1 - digits.length) '0' ++ digits
  let whole := digits.take (digits.length - time.places)
  (if time.units < 0 then ['-'] else []) ++
    if time.places == 0 then whole else whole ++ '.' :: digits.drop whole.length

inductive ProcessResult where
  | finished (output errors : Option Text) (status : Int)
  | timedOut
  | notFound
  | denied
  deriving DecidableEq, Repr

inductive TaskFault where
  | noDirectory (path : Text)
  | timedOut (timeout : Seconds)
  | notInstalled (program : Text)
  | denied
  | version (fault : VersionFault)
  deriving DecidableEq, Repr

namespace TaskFault

def message : TaskFault → Text
  | .noDirectory path => "Path does not exist: ".toList ++ path
  | .timedOut timeout => "Routes task timed out after ".toList ++ timeout.text ++ " seconds".toList
  | .notInstalled program => program ++ " is not installed or not in PATH".toList
  | .denied => "denied".toList
  | .version fault => fault.message

def isRunFault : TaskFault → Bool
  | .noDirectory _ => true
  | .timedOut _ => true
  | .notInstalled _ => true
  | .denied => false
  | .version _ => false

end TaskFault

structure RoutesTask where
  root : Text
  name : Text
  command : List Text
  timeout : Seconds

namespace RoutesTask

def defaultName : Text := "routes".toList

def defaultTimeout : Seconds := ⟨120, 0⟩

def tool (major : Option Nat) : Text :=
  if major.any (· < 6) then "rake".toList else "rails".toList

def commandLine (task : RoutesTask) (disk : FileTree) : Except VersionFault (List Text) :=
  if !task.command.isEmpty then .ok (task.command ++ [task.name])
  else do
    let framework ← Framework.detect disk task.root
    let major ← Framework.majorVersion framework.version
    return ["bundle".toList, "exec".toList, tool major, task.name]

structure Outcome where
  result : Except TaskFault (Text × Text)
  started : Option (List Text)
  log : Log

def statusText (status : Int) : Text :=
  (if status < 0 then ['-'] else []) ++ Text.ofNat status.natAbs

/-- A task that fails still has outputs; they are for the reader to judge. -/
def run (task : RoutesTask) (disk : FileTree) (process : ProcessResult) : Outcome :=
  if !disk.isDirectoryAt task.root then ⟨.error (.noDirectory task.root), none, []⟩
  else match task.commandLine disk with
    | .error fault => ⟨.error (.version fault), none, []⟩
    | .ok command =>
      let start : LogEntry :=
        ⟨.info, "Running ".toList ++ Text.join [' '] command ++ " in ".toList ++ task.root ++
          " ...".toList⟩
      match process with
      | .timedOut => ⟨.error (.timedOut task.timeout), some command, [start]⟩
      | .notFound => ⟨.error (.notInstalled (command.headD [])), some command, [start]⟩
      | .denied => ⟨.error .denied, some command, [start]⟩
      | .finished output errors status =>
        let exit : Log := if status == 0 then [] else
          [⟨.debug, "Routes task exited with status ".toList ++ statusText status⟩]
        ⟨.ok (output.getD [], errors.getD []), some command, start :: exit⟩

end RoutesTask

end RouteReport
