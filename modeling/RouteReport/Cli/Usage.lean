import RouteReport.Cli.Options
import RouteReport.FileTree.Basic

namespace RouteReport.Cli

def programName : Text := "railways".toList

def versionText : Text := programName ++ ", version 0.3.0\n".toList

def usageLine : Text := "Usage: ".toList ++ programName ++ " [OPTIONS] [SOURCE]\n".toList

def helpText : Text :=
  usageLine ++ "
  Show the routes of a Rails application.

  SOURCE is a file with the output of `rails routes`, or `-` for stdin.

Options:
  --stderr FILENAME           Captured stderr of the routes task
  --run DIRECTORY             Run the routes task in this Rails app instead of
                              reading SOURCE
  --app DIRECTORY             Resolve actions against the sources of this Rails
                              app
  --task TEXT                 Name of the routes task  [default: routes]
  --filter TEXT               Only show routes matching TEXT
  --format [table|yaml|json]  Output format (default: table)
  -o, --output FILE           Write yaml/json output to a file instead of stdout
  -v, --verbose               Enable debug logging
  --version                   Show the version and exit.
  --help                      Show this message and exit.
".toList

inductive UsageFault where
  | badSyntax (fault : SyntaxFault)
  | extraArguments (arguments : List Text)
  | unreadable (parameter : String) (path : Text) (fault : FileFault)
  | unknownFormat (word : Text)
  | noDirectory (parameter : String) (path : Text)
  | notADirectory (parameter : String) (path : Text)
  | notAFile (parameter : String) (path : Text)
  | noSource
  deriving DecidableEq, Repr

namespace UsageFault

def invalidValue (parameter : String) (reason : Text) : Text :=
  "Invalid value for ".toList ++ parameter.toList ++ ": ".toList ++ reason

def inQuotes (text : Text) : Text := '\'' :: text ++ ['\'']

def message : UsageFault → Text
  | .badSyntax (.unknownOption word) => "No such option ".toList ++ word.quoted ++ ['.']
  | .badSyntax (.missingValue word) => "Option ".toList ++ word.quoted ++ " requires an argument.".toList
  | .badSyntax (.unexpectedValue word) =>
    "Option ".toList ++ word.quoted ++ " does not take a value.".toList
  | .extraArguments arguments =>
    (if arguments.length == 1 then "Got unexpected extra argument (" else
      "Got unexpected extra arguments (").toList ++ Text.join [' '] arguments ++ [')']
  | .unreadable parameter path fault =>
    invalidValue parameter (inQuotes path ++ ": ".toList ++ fault.reason)
  | .unknownFormat word =>
    invalidValue "'--format'" (word.quoted ++ " is not one of 'table', 'yaml', 'json'.".toList)
  | .noDirectory parameter path =>
    invalidValue parameter ("Directory ".toList ++ path.quoted ++ " does not exist.".toList)
  | .notADirectory parameter path =>
    invalidValue parameter ("Directory ".toList ++ path.quoted ++ " is a file.".toList)
  | .notAFile parameter path =>
    invalidValue parameter ("File ".toList ++ path.quoted ++ " is a directory.".toList)
  | .noSource => "Either SOURCE or --run is required".toList

def hasUsage : UsageFault → Bool
  | .badSyntax (.missingValue _) => false
  | .badSyntax (.unexpectedValue _) => false
  | _ => true

def text (fault : UsageFault) : Text :=
  (if fault.hasUsage then
    usageLine ++ "Try '".toList ++ programName ++ " --help' for help.\n\n".toList
  else []) ++ "Error: ".toList ++ fault.message ++ ['\n']

end UsageFault

end RouteReport.Cli
