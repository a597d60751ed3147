import RouteReport.Text.Quoted

namespace RouteReport.Cli

inductive OptionName where
  | stderr
  | run
  | app
  | task
  | filter
  | format
  | output
  | verbose
  | version
  | help
  deriving DecidableEq, Repr

namespace OptionName

def all : List OptionName :=
  [.stderr, .run, .app, .task, .filter, .format, .output, .verbose, .version, .help]

def long : OptionName → Text
  | .stderr => "--stderr".toList
  | .run => "--run".toList
  | .app => "--app".toList
  | .task => "--task".toList
  | .filter => "--filter".toList
  | .format => "--format".toList
  | .output => "--output".toList
  | .verbose => "--verbose".toList
  | .version => "--version".toList
  | .help => "--help".toList

def short? : OptionName → Option Char
  | .output => some 'o'
  | .verbose => some 'v'
  | _ => none

def takesValue : OptionName → Bool
  | .verbose => false
  | .version => false
  | .help => false
  | _ => true

def ofLong? (word : Text) : Option OptionName := all.find? (·.long == word)

def ofShort? (letter : Char) : Option OptionName := all.find? (·.short? == some letter)

end OptionName

inductive SyntaxFault where
  | unknownOption (word : Text)
  | missingValue (word : Text)
  | unexpectedValue (word : Text)
  deriving DecidableEq, Repr

structure Given where
  option : OptionName
  value : Text
  deriving DecidableEq, Repr

structure Words where
  options : List Given
  arguments : List Text
  deriving DecidableEq, Repr

namespace Words

def withOption (words : Words) (option : OptionName) (value : Text) : Words :=
  { words with options := ⟨option, value⟩ :: words.options }

def withArgument (words : Words) (argument : Text) : Words :=
  { words with arguments := argument :: words.arguments }

inductive Need where
  | nothing
  | value (option : OptionName) (spelling : Text)

def ofLetters (words : Words) : Text → Except SyntaxFault (Words × Need)
  | [] => .ok (words, .nothing)
  | letter :: rest =>
    match OptionName.ofShort? letter with
    | none => .error (.unknownOption ['-', letter])
    | some option =>
      if !option.takesValue then ofLetters (words.withOption option []) rest
      else if rest.isEmpty then .ok (words, .value option ['-', letter])
      else .ok (words.withOption option rest, .nothing)

def ofDashed (words : Words) (word : Text) : Except SyntaxFault (Words × Need) :=
  let (name, value) := match word.cut? ['='] with
    | some (name, value) => (name, some value)
    | none => (word, none)
  match OptionName.ofLong? name with
  | some option =>
    match option.takesValue, value with
    | true, some value => .ok (words.withOption option value, .nothing)
    | true, none => .ok (words, .value option name)
    | false, some _ => .error (.unexpectedValue name)
    | false, none => .ok (words.withOption option [], .nothing)
  | none =>
    if ['-', '-'].isPrefixOf word then .error (.unknownOption name)
    else words.ofLetters (word.drop 1)

/-- Two dashes alone end the options; one dash alone is no option. -/
def readFrom (words : Words) (need : Need) : List Text → Except SyntaxFault Words
  | [] =>
    match need with
    | .nothing => .ok words
    | .value _ spelling => .error (.missingValue spelling)
  | word :: rest =>
    match need with
    | .value option _ => readFrom (words.withOption option word) .nothing rest
    | .nothing =>
      if word == ['-', '-'] then
        .ok { words with arguments := rest.reverse ++ words.arguments }
      else if word.head? = some '-' && word.length > 1 then do
        let (words, need) ← words.ofDashed word
        readFrom words need rest
      else readFrom (words.withArgument word) .nothing rest

def read (line : List Text) : Except SyntaxFault Words := do
  let words ← readFrom ⟨[], []⟩ .nothing line
  return ⟨words.options.reverse, words.arguments.reverse⟩

def value? (words : Words) (option : OptionName) : Option Text :=
  ((words.options.filter (·.option = option)).getLast?).map (·.value)

def order (words : Words) : List OptionName := (words.options.map (·.option)).eraseDups

end Words

end RouteReport.Cli
