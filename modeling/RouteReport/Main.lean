import RouteReport.Cli.Run

/-! The program. It sees of the disk what its words name: files with their content, directories, and
the two gem files of the application that it runs. It lists no directory and starts no process, so an
application named here counts as one without Ruby sources, and without a program that runs tasks. -/

namespace RouteReport.Cli

def placesOnWay (path : Text) : List Text :=
  let way := path.splitOn '/'
  (List.range way.length).map fun n => Text.join ['/'] (way.take (n + 1))

def namesOn (line : List Text) : List Text :=
  match Words.read line with
  | .error _ => []
  | .ok words =>
    let given (option : OptionName) := (words.value? option).toList.filter (!·.isEmpty)
    let gemFiles := (given .run).flatMap fun root =>
      [Path.join root "Gemfile.lock".toList, Path.join root "Gemfile".toList]
    words.arguments ++ given .stderr ++ given .run ++ given .app ++ given .output ++ gemFiles

def namesInput (line : List Text) : Bool := (namesOn line).contains ['-']

def directoryCode : UInt32 := 21

def look (disk : FileTree) (path : Text) : IO FileTree := do
  match ← (IO.FS.readBinFile (String.ofList path)).toBaseIO with
  | .ok content => return disk.putFile path content.toList
  | .error (.inappropriateType _ code _) =>
    return if code = directoryCode then disk.makeDirectory path else disk
  | .error _ => return disk

partial def readToEnd (input : IO.FS.Stream) (before : Array Octets) : IO Octets := do
  let octets ← input.read 4096
  if octets.isEmpty then return before.toList.flatten
  else readToEnd input (before.push octets.toList)

def world (line : List Text) : IO World := do
  let directory := (toString (← IO.currentDir)).toList
  let places := (namesOn line).flatMap fun name => placesOnWay (Path.join directory name)
  let disk ← places.eraseDups.foldlM look (FileTree.empty.makeDirectory directory)
  let input ← if namesInput line then readToEnd (← IO.getStdin) #[] else pure []
  let taskVariable := (← IO.getEnv "RAILWAYS_TASK").map String.toList
  return ⟨⟨disk, directory⟩, input, taskVariable, .notFound⟩

end RouteReport.Cli

def main (words : List String) : IO UInt32 := do
  let line := words.map String.toList
  let done := RouteReport.Cli.runCommand (← RouteReport.Cli.world line) line
  if let some (path, text) := done.effects.written then
    IO.FS.writeBinFile (String.ofList path) ⟨(RouteReport.Utf8.encode text).toArray⟩
  IO.print (String.ofList done.effects.output)
  IO.eprint (String.ofList done.effects.errors)
  if let some crash := done.crash then IO.eprintln (String.ofList crash.message)
  return done.status.toUInt32
