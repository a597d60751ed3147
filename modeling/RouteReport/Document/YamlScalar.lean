import RouteReport.Text.Quoted

/-! Texts as YAML scalars: plain where that reads back as the same text, in quotes where it does
not, and folded past the eightieth column. -/

namespace RouteReport.Document.Yaml

open Text (isAsciiDigit)

def isBreak (c : Char) : Bool := c == '\n' || c == '\x85' || c == '\u2028' || c == '\u2029'

def isGap (c : Char) : Bool := c == '\x00' || c == ' ' || c == '\t' || c == '\r' || isBreak c

def isDigitOrMark (c : Char) : Bool := isAsciiDigit c || c == '_'

def withoutSign (text : Text) : Text :=
  match text with
  | '-' :: rest => rest
  | '+' :: rest => rest
  | text => text

def isOneOf (text : Text) (words : List String) : Bool := words.any fun word => word.toList == text

def isNull (text : Text) : Bool := text.isEmpty || isOneOf text ["~", "null", "Null", "NULL"]

def isBoolean (text : Text) : Bool :=
  isOneOf text ["yes", "Yes", "YES", "no", "No", "NO", "true", "True", "TRUE", "false", "False", "FALSE",
    "on", "On", "ON", "off", "Off", "OFF"]

/-- Groups of a colon and one or two digits below sixty, then what the rest must satisfy. -/
def isSexagesimal (last : Text → Bool) (text : Text) : Bool :=
  match text with
  | ':' :: a :: b :: rest =>
    (isAsciiDigit a && isAsciiDigit b && a < '6' &&
        (last rest || isSexagesimal last rest)) ||
      (isAsciiDigit a && (last (b :: rest) || isSexagesimal last (b :: rest)))
  | [':', a] => isAsciiDigit a && last []
  | _ => false

def digitRun (text : Text) : Text × Text :=
  if text.head?.any isAsciiDigit then Text.run text isDigitOrMark else ([], text)

def isInteger (text : Text) : Bool :=
  match withoutSign text with
  | ['0'] => true
  | '0' :: 'b' :: digits =>
    !digits.isEmpty && digits.all fun c => c == '0' || c == '1' || c == '_'
  | '0' :: 'x' :: digits =>
    !digits.isEmpty && digits.all fun c =>
      isDigitOrMark c || ('a' ≤ c && c ≤ 'f') || ('A' ≤ c && c ≤ 'F')
  | '0' :: digits => digits.all fun c => ('0' ≤ c && c ≤ '7') || c == '_'
  | digits =>
    let (run, rest) := digitRun digits
    !run.isEmpty && (rest.isEmpty || isSexagesimal List.isEmpty rest)

def isExponent (text : Text) : Bool :=
  match text with
  | [] => true
  | e :: sign :: digits =>
    (e == 'e' || e == 'E') && (sign == '-' || sign == '+') && !digits.isEmpty &&
      digits.all isAsciiDigit
  | _ => false

def isFraction (text : Text) : Bool :=
  match text with
  | '.' :: rest => isExponent (rest.dropWhile isDigitOrMark)
  | _ => false

def isFloat (text : Text) : Bool :=
  let unsigned := withoutSign text
  let (run, rest) := digitRun unsigned
  let isShort := match text with
    | '.' :: c :: rest => isAsciiDigit c && isExponent (rest.dropWhile isDigitOrMark)
    | _ => false
  (!run.isEmpty && isFraction rest) || isShort ||
    (!run.isEmpty && isSexagesimal (fun last =>
      match last with
      | '.' :: rest => rest.all isDigitOrMark
      | _ => false) rest) ||
    isOneOf unsigned [".inf", ".Inf", ".INF"] || isOneOf text [".nan", ".NaN", ".NAN"]

def shortNumber? (text : Text) : Option Text :=
  match text with
  | a :: b :: rest =>
    if isAsciiDigit a then if isAsciiDigit b then some rest else some (b :: rest) else none
  | [a] => if isAsciiDigit a then some [] else none
  | [] => none

def fixedNumber? (count : Nat) (text : Text) : Option Text :=
  if (text.take count).length == count && (text.take count).all isAsciiDigit then
    some (text.drop count)
  else none

def mark? (c : Char) (text : Text) : Option Text := text.afterPrefix? [c]

def isZone (text : Text) : Bool :=
  match text.dropWhile fun c => c == ' ' || c == '\t' with
  | ['Z'] => true
  | sign :: rest =>
    (sign == '-' || sign == '+') && match shortNumber? rest with
      | some [] => true
      | some rest => ((mark? ':' rest >>= fixedNumber? 2).any List.isEmpty)
      | none => false
  | [] => text.isEmpty

def isTime (text : Text) : Bool :=
  let start := match text with
    | 'T' :: rest => some rest
    | 't' :: rest => some rest
    | c :: rest =>
      if c == ' ' || c == '\t' then some (rest.dropWhile fun c => c == ' ' || c == '\t') else none
    | [] => none
  match start >>= shortNumber? >>= mark? ':' >>= fixedNumber? 2 >>= mark? ':' >>= fixedNumber? 2 with
  | some ('.' :: rest) => isZone (rest.dropWhile isAsciiDigit)
  | some rest => isZone rest
  | none => false

def isTimestamp (text : Text) : Bool :=
  let year := fixedNumber? 4 text >>= mark? '-'
  ((year >>= fixedNumber? 2 >>= mark? '-' >>= fixedNumber? 2).any List.isEmpty) ||
    ((year >>= shortNumber? >>= mark? '-' >>= shortNumber?).any isTime)

/-- A plain scalar of this text would not be read as text. -/
def isTyped (text : Text) : Bool :=
  isNull text || isBoolean text || isInteger text || isFloat text || isTimestamp text ||
    isOneOf text ["=", "<<"]

def isSpecial (c : Char) : Bool :=
  let n := c.toNat
  !(c == '\n' || (0x20 ≤ n && n ≤ 0x7e) || n == 0x85 || (0xa0 ≤ n && n ≤ 0xfffd && n != 0xfeff) ||
    (0x10000 ≤ n && n < 0x10ffff))

def indicators : List Char :=
  ['#', ',', '[', ']', '\x7b', '\x7d', '&', '*', '!', '|', '>', '\'', '"', '%', '@', '\x60']

def startsIndicator (text : Text) : Bool :=
  match text with
  | [] => false
  | c :: rest =>
    ['-', '-', '-'].isPrefixOf text || ['.', '.', '.'].isPrefixOf text || indicators.contains c ||
      ((c == '?' || c == ':' || c == '-') && rest.head?.all isGap)

def holdsIndicator : Text → Bool
  | a :: b :: rest =>
    (b == ':' && rest.head?.all isGap) || (b == '#' && isGap a) || holdsIndicator (b :: rest)
  | _ => false

def holdsSpacedBreak : Text → Bool
  | a :: b :: rest =>
    (a == ' ' && isBreak b) || (isBreak a && b == ' ') || holdsSpacedBreak (b :: rest)
  | _ => false

def isPlain (text : Text) : Bool :=
  !isTyped text && !startsIndicator text && !holdsIndicator text &&
    !text.any isSpecial && !text.any isBreak &&
    text.head? != some ' ' && text.getLast? != some ' '

def isSingleQuotable (text : Text) : Bool := !text.any isSpecial && !holdsSpacedBreak text

def bestWidth : Nat := 80

def newline (indent : Nat) : Text := '\n' :: Text.spaces indent

def runs (text : Text) : List Text :=
  text.splitBy fun a b => (a == ' ') == (b == ' ') && isBreak a == isBreak b

def foldPlain (indent column : Nat) : List Text → Text
  | [] => []
  | run :: rest =>
    if run == [' '] && bestWidth < column then newline indent ++ foldPlain indent indent rest
    else run ++ foldPlain indent (column + run.length) rest

def doubleQuotes (text : Text) : Text := text.flatMap fun c => if c == '\'' then [c, c] else [c]

def writeBreaks (run : Text) : Text := (if run.head? = some '\n' then ['\n'] else []) ++ run

def foldSingle (indent column : Nat) (isFirst : Bool) : List Text → Text
  | [] => []
  | run :: rest =>
    if run.any isBreak then
      writeBreaks run ++ Text.spaces indent ++ foldSingle indent indent false rest
    else if run == [' '] && bestWidth < column && !isFirst && !rest.isEmpty then
      newline indent ++ foldSingle indent indent false rest
    else
      let written := doubleQuotes run
      written ++ foldSingle indent (column + written.length) false rest

def upperHex (width n : Nat) : Text := (Text.hex width n).map Char.toUpper

def escape? (c : Char) : Option Text :=
  let n := c.toNat
  let isVisible := (0x20 ≤ n && n ≤ 0x7e) || (0xa0 ≤ n && n ≤ 0xfffd)
  if c == '\x00' then some ['\\', '0']
  else if c == '\x07' then some ['\\', 'a']
  else if c == '\x08' then some ['\\', 'b']
  else if c == '\t' then some ['\\', 't']
  else if c == '\n' then some ['\\', 'n']
  else if c == '\x0b' then some ['\\', 'v']
  else if c == '\x0c' then some ['\\', 'f']
  else if c == '\r' then some ['\\', 'r']
  else if c == '\x1b' then some ['\\', 'e']
  else if c == '"' || c == '\\' then some ['\\', c]
  else if c == '\x85' then some ['\\', 'N']
  else if c == '\u2028' then some ['\\', 'L']
  else if c == '\u2029' then some ['\\', 'P']
  else if isVisible && n != 0xfeff then none
  else if n ≤ 0xff then some ('\\' :: 'x' :: upperHex 2 n)
  else if n ≤ 0xffff then some ('\\' :: 'u' :: upperHex 4 n)
  else some ('\\' :: 'U' :: upperHex 8 n)

def doubleFold (indent : Nat) (startsWithSpace : Bool) : Text × Nat :=
  ('\\' :: newline indent ++ (if startsWithSpace then ['\\'] else []),
    if startsWithSpace then indent + 1 else indent)

/-- Writes a text in double quotes; `pending` holds the characters since the last escape or fold,
the last one first, which `column` does not count yet. -/
def foldDouble (canFold : Bool) (indent column : Nat) (isFirst : Bool) (pending : Text) : Text → Text
  | [] => pending.reverse
  | c :: rest =>
    match escape? c with
    | some written =>
      let column := column + pending.length + written.length
      if canFold && !isFirst && !rest.isEmpty && bestWidth + 1 < column then
        let (fold, column) := doubleFold indent (rest.head? = some ' ')
        pending.reverse ++ written ++ fold ++ foldDouble canFold indent column false [] rest
      else pending.reverse ++ written ++ foldDouble canFold indent column false [] rest
    | none =>
      if canFold && !isFirst && !rest.isEmpty && (c == ' ' || pending.isEmpty) &&
          bestWidth < column + pending.length then
        let (fold, column) := doubleFold indent (c == ' ')
        pending.reverse ++ fold ++ foldDouble canFold indent column false [c] rest
      else foldDouble canFold indent column false (c :: pending) rest

def scalar (indent column : Nat) (text : Text) : Text :=
  if isPlain text then foldPlain indent column (runs text)
  else if isSingleQuotable text then '\'' :: foldSingle indent (column + 1) true (runs text) ++ ['\'']
  else '"' :: foldDouble true indent (column + 1) true [] text ++ ['"']

def fieldName (text : Text) : Text :=
  if isPlain text then text
  else if isSingleQuotable text && !text.any isBreak then '\'' :: doubleQuotes text ++ ['\'']
  else '"' :: foldDouble false 0 0 true [] text ++ ['"']

end RouteReport.Document.Yaml
