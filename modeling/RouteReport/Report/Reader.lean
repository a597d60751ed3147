import RouteReport.Report.Failure
import RouteReport.Report.Line
import RouteReport.Route.List
import RouteReport.Text.Lines
import RouteReport.Text.Utf8

/-! A reader of reports, and what it remembers from one report to the next. -/

namespace RouteReport

/-- How the supply of lines ends: after the last one, by a failure to read or decode, or by a
fault of the supplier that is not the reader's to handle. -/
inductive StreamEnd where
  | complete
  | unreadable
  | broken
  deriving DecidableEq, Repr

structure Reader where
  application : Option Text
  engines : List Engine
  failure : Failure
  deriving DecidableEq, Repr

namespace Reader

def new (application : Option Text) : Reader := ⟨application, [], .absent⟩

def clearFailure (reader : Reader) : Reader := { reader with failure := .absent }

def readErrors (reader : Reader) (output : Option Text) : Reader :=
  { reader with failure := .ofErrorOutput output }

def readingsOf (application : Option Text) (lines : List Text) : List LineReading :=
  lines.map fun line => .ofLine application (Text.withoutLineEnd line)

/-- The engines of the lines read become those of the reader, also when the stream fails. -/
def readLines (reader : Reader) (lines : List Text) : Reader :=
  { reader with engines := (readingsOf reader.application lines).filterMap (·.engine?) }

def routesOf? (reader : Reader) (lines : List Text) (streamEnd : StreamEnd) : Option Routes :=
  if streamEnd = .complete then
    some ((readingsOf reader.application lines).flatMap fun reading => reading.routes?.getD [])
  else none

/-- Reads the standard output of the task after its error output. -/
def read (reader : Reader) (output : Text) (errors : Option Text) : Reader × Routes :=
  let reader := reader.readErrors errors
  let lines := Text.lines output
  (reader.readLines lines,
    (readingsOf reader.application lines).flatMap fun reading => reading.routes?.getD [])

/-- The lines of octets, and how they end: octets that are not text yield no line at all. -/
def linesOfOctets (octets : Octets) : List Text × StreamEnd :=
  match Utf8.decode octets with
  | .ok text => (Text.lines (Text.unifyLineEnds text), .complete)
  | .error _ => ([], .unreadable)

def errorsLog (reader : Reader) : Log :=
  if reader.failure.isReported then
    [⟨.debug, "Routes task reported ".toList ++ reader.failure.code.name⟩]
  else []

def linesLog (reader : Reader) (lines : List Text) (streamEnd : StreamEnd) : Log :=
  let readings := readingsOf reader.application lines
  readings.flatMap (·.log) ++ match streamEnd with
    | .complete =>
      let routes := (readings.flatMap fun reading => reading.routes?.getD []).length
      let engines := (readings.filterMap (·.engine?)).length
      [⟨.debug, "Parsed ".toList ++ Text.ofNat routes ++ " routes, ".toList ++
        Text.ofNat engines ++ " mounted engines".toList⟩]
    | .unreadable => [⟨.error, "Failed to read routes output".toList⟩]
    | .broken => []

def readLog (reader : Reader) (output : Text) (errors : Option Text) : Log :=
  (reader.readErrors errors).errorsLog ++ reader.linesLog (Text.lines output) .complete

end Reader

end RouteReport
