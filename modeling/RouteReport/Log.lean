import RouteReport.Text.Basic

namespace RouteReport

inductive LogLevel where
  | debug
  | info
  | warning
  | error
  deriving DecidableEq, Repr

def LogLevel.label : LogLevel → Text
  | .debug => "DEBUG".toList
  | .info => "INFO".toList
  | .warning => "WARNING".toList
  | .error => "ERROR".toList

structure LogEntry where
  level : LogLevel
  message : Text
  deriving DecidableEq, Repr

abbrev Log := List LogEntry

def LogEntry.line (entry : LogEntry) : Text := entry.level.label ++ ": ".toList ++ entry.message

end RouteReport
