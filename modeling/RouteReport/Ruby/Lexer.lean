import RouteReport.Ruby.Token

/-! From source to tokens. What a character means depends on what may stand there: `/` divides
after a value and starts a pattern where an expression begins. -/

namespace RouteReport.Ruby

inductive Place where
  | start
  | afterName
  | afterValue
  | afterJump
  | afterClass
  | afterDot
  | afterScope
  | methodName
  | afterMethodName
  | aliasName
  deriving DecidableEq, Repr

def Place.isOpen (place : Place) : Bool :=
  place != .afterName && place != .afterValue && place != .afterJump && place != .afterMethodName

structure Delimited where
  opening : Char
  closing : Char
  hasCode : Bool

structure Heredoc where
  mark : List Char
  mayIndent : Bool

structure Lexeme where
  kind : TokenKind
  length : Nat
  next : Place
  isUnary : Bool := false
  heredoc : Option Heredoc := none

def closingOf (c : Char) : Char :=
  match c with
  | '(' => ')'
  | '[' => ']'
  | '\x7b' => '\x7d'
  | '<' => '>'
  | c => c

/-- At this place, and with this spacing, an ambiguous character starts an operand. -/
def startsOperand (place : Place) (spaced : Bool) (rest : List Char) : Bool :=
  match place with
  | .start | .afterJump => true
  | .afterName | .afterMethodName => spaced && rest.head?.any fun c => !isSpace c && c != '\n' && c != '='
  | _ => false

def placeAfterKeyword (word : List Char) : Place :=
  let isOne (words : List String) := words.any fun w => w.toList == word
  if isOne ["return", "break", "next"] then .afterJump
  else if isOne ["redo", "retry", "self", "nil", "true", "false", "end", "__FILE__", "__LINE__",
    "__ENCODING__"] then .afterValue
  else if isOne ["super", "yield", "defined?"] then .afterName
  else if isOne ["def", "undef"] then .methodName
  else if isOne ["alias"] then .aliasName
  else if isOne ["class"] then .afterClass
  else .start

def isSetterSign : List Char → Bool
  | '=' :: c :: _ => c != '=' && c != '~' && c != '>'
  | ['='] => true
  | _ => false

def wordLength (source : List Char) : Nat :=
  let word := source.takeWhile isNameChar
  match source.drop word.length with
  | c :: rest =>
    if (c == '?' || c == '!') && !isSetterSign rest then word.length + 1 else word.length
  | [] => word.length

def isLabelColon : List Char → Bool
  | ':' :: ':' :: _ => false
  | ':' :: _ => true
  | _ => false

def wordLexeme (place : Place) (source : List Char) : Lexeme :=
  let length := wordLength source
  let word := source.take length
  let rest := source.drop length
  let isPlain := length == (source.takeWhile isNameChar).length
  let isConstant := isPlain && source.head?.any isConstantStart
  match place with
  | .methodName =>
    ⟨.name, if isPlain && isSetterSign rest then length + 1 else length, .afterMethodName, false, none⟩
  | .aliasName =>
    ⟨.name, if isPlain && isSetterSign rest then length + 1 else length, .methodName, false, none⟩
  | .afterDot => ⟨.name, length, .afterName, false, none⟩
  | .afterScope => ⟨if isConstant then .constant else .name, length, .afterName, false, none⟩
  | _ =>
    if isLabelColon rest then ⟨.label, length + 1, .start, false, none⟩
    else if keywords.any fun w => w.toList == word then
      ⟨.keyword, length, placeAfterKeyword word, false, none⟩
    else ⟨if isConstant then .constant else .name, length, .afterName, false, none⟩

def numberLength (source : List Char) : Nat :=
  go false source
where
  go (afterExponent : Bool) : List Char → Nat
    | [] => 0
    | '.' :: d :: rest => if '0' ≤ d && d ≤ '9' then 2 + go false rest else 0
    | c :: rest =>
      if isNameChar c && c.toNat < 128 then 1 + go (c == 'e' || c == 'E') rest
      else if afterExponent && (c == '-' || c == '+') && rest.head?.any (fun d => '0' ≤ d && d ≤ '9')
      then 1 + go false rest
      else 0

def variableLength : List Char → Nat
  | '@' :: '@' :: rest => 2 + (rest.takeWhile isNameChar).length
  | '@' :: rest => 1 + (rest.takeWhile isNameChar).length
  | '$' :: '-' :: _ => 3
  | '$' :: rest => 1 + max 1 (rest.takeWhile isNameChar).length
  | _ => 1

def characterLength : List Char → Nat
  | '\\' :: 'u' :: '\x7b' :: rest => 4 + (rest.takeWhile (· != '\x7d')).length
  | '\\' :: c :: '-' :: rest =>
    if c == 'C' || c == 'M' then
      3 + match rest with
        | '\\' :: _ :: '-' :: _ => 4
        | '\\' :: _ => 2
        | _ => 1
    else 2
  | '\\' :: c :: rest =>
    if c == 'u' || c == 'x' || ('0' ≤ c && c ≤ '7') then 2 + (rest.takeWhile isNameChar).length else 2
  | _ :: rest => 1 + (rest.takeWhile fun d => 128 ≤ d.toNat && d.toNat < 192).length
  | [] => 0

def isCharacterLiteral : List Char → Bool
  | '\\' :: _ => true
  | c :: rest =>
    !isSpace c && c != '\n' &&
      !(isNameChar c && (rest.dropWhile fun d => 128 ≤ d.toNat && d.toNat < 192).head?.any isNameChar)
  | [] => false

def heredocOf? (source : List Char) : Option (Heredoc × Nat) :=
  let (mayIndent, rest, before) := match source with
    | '~' :: rest => (true, rest, 3)
    | '-' :: rest => (true, rest, 3)
    | rest => (false, rest, 2)
  match rest with
  | c :: more =>
    if c == '"' || c == '\'' || c == '\x60' then
      let mark := more.takeWhile (· != c)
      some (⟨mark, mayIndent⟩, before + mark.length + 2)
    else if isNameStart c || isConstantStart c then
      let mark := rest.takeWhile isNameChar
      some (⟨mark, mayIndent⟩, before + mark.length)
    else none
  | [] => none

def percentOf? (rest : List Char) : Option (Delimited × Nat) :=
  let isDelimiter (c : Char) := !isNameChar c && !isSpace c && c != '\n' && c != '='
  match rest with
  | letter :: c :: _ =>
    if ['q', 'w', 'i', 's', 'Q', 'W', 'I', 'r', 'x'].contains letter then
      if isDelimiter c then
        some (⟨c, closingOf c, !(['q', 'w', 'i', 's'].contains letter)⟩, 3)
      else none
    else if isDelimiter letter then some (⟨letter, closingOf letter, true⟩, 2) else none
  | _ => none

def symbolLength? (rest : List Char) : Option Nat :=
  match rest with
  | [] => none
  | c :: more =>
    if isNameStart c || isConstantStart c then
      let length := wordLength rest
      let isPlain := length == (rest.takeWhile isNameChar).length
      some (if isPlain && isSetterSign (rest.drop length) then length + 1 else length)
    else if c == '@' || c == '$' then
      if more.head?.any fun d => !isSpace d && d != '\n' then some (variableLength rest) else none
    else (firstPrefix? methodOperators rest).map List.length

def operatorLexeme (place : Place) (spaced : Bool) (text rest : List Char) : Lexeme :=
  let isOne (texts : List String) := texts.any fun t => t.toList == text
  let leads := place = .start || place = .afterJump
  let isUnary :=
    leads || isOne ["!", "~", "->"] ||
      (isOne ["*", "&", "**", "-", "::"] && startsOperand place spaced rest)
  let next :=
    if place = .afterMethodName && isOne [".", "::"] then .methodName
    else if isOne [".", "&."] then .afterDot
    else if isOne ["::"] then .afterScope
    else .start
  ⟨.operator, text.length, next, isUnary, none⟩

mutual

def delimitedLength (fuel : Nat) (d : Delimited) (depth : Nat) (source : List Char) : Nat :=
  match fuel with
  | 0 => 0
  | fuel + 1 =>
    match source with
    | [] => 0
    | '\\' :: _ :: rest => 2 + delimitedLength fuel d depth rest
    | '#' :: '\x7b' :: rest =>
      if d.hasCode then
        let length := codeLength fuel 0 .start false rest
        2 + length + delimitedLength fuel d depth (rest.drop length)
      else if d.opening == '\x7b' then 2 + delimitedLength fuel d (depth + 1) rest
      else 2 + delimitedLength fuel d depth rest
    | c :: rest =>
      if c == d.closing then if depth == 0 then 1 else 1 + delimitedLength fuel d (depth - 1) rest
      else if c == d.opening then 1 + delimitedLength fuel d (depth + 1) rest
      else 1 + delimitedLength fuel d depth rest

/-- The length of code inside a text, up to and with the brace that closes it. -/
def codeLength (fuel : Nat) (depth : Nat) (place : Place) (spaced : Bool) (source : List Char) : Nat :=
  match fuel with
  | 0 => 0
  | fuel + 1 =>
    match source with
    | [] => 0
    | c :: rest =>
      if isSpace c then 1 + codeLength fuel depth place true rest
      else if c == '\n' then 1 + codeLength fuel depth .start true rest
      else if c == '\x7d' then
        if depth == 0 then 1 else 1 + codeLength fuel (depth - 1) .afterValue false rest
      else
        let found := lexeme fuel place spaced source
        let length := max 1 found.length
        let depth := if c == '\x7b' then depth + 1 else depth
        length + codeLength fuel depth found.next false (source.drop length)

def lexeme (fuel : Nat) (place : Place) (spaced : Bool) (source : List Char) : Lexeme :=
  match fuel with
  | 0 => ⟨.operator, 1, .start, false, none⟩
  | fuel + 1 =>
    let literal (length : Nat) : Lexeme := ⟨.literal, length, .afterValue, false, none⟩
    let operator (text : List Char) :=
      operatorLexeme place spaced text (source.drop text.length)
    let other (_ : Unit) := operator ((firstPrefix? operators source).getD (source.take 1))
    match source with
    | [] => literal 0
    | c :: rest =>
      if isNameStart c || isConstantStart c then wordLexeme place source
      else if place = .methodName && (firstPrefix? methodOperators source).isSome then
        ⟨.name, ((firstPrefix? methodOperators source).getD []).length, .afterMethodName, false, none⟩
      else if place = .aliasName && (firstPrefix? methodOperators source).isSome then
        ⟨.name, ((firstPrefix? methodOperators source).getD []).length, .methodName, false, none⟩
      else if place = .afterDot && c != '(' && (firstPrefix? methodOperators source).isSome then
        ⟨.name, ((firstPrefix? methodOperators source).getD []).length, .afterName, false, none⟩
      else if '0' ≤ c && c ≤ '9' then literal (numberLength source)
      else if c == '#' then ⟨.comment, (source.takeWhile (· != '\n')).length, place, false, none⟩
      else if c == '"' || c == '\x60' then
        literal (1 + delimitedLength fuel ⟨c, c, true⟩ 0 rest)
      else if c == '\'' then literal (1 + delimitedLength fuel ⟨c, c, false⟩ 0 rest)
      else if c == '@' || c == '$' then literal (variableLength source)
      else if c == '(' || c == '[' || c == '\x7b' then ⟨.openBracket, 1, .start, false, none⟩
      else if c == ')' || c == ']' || c == '\x7d' then ⟨.closeBracket, 1, .afterValue, false, none⟩
      else if c == ';' then ⟨.lineEnd, 1, .start, false, none⟩
      else if c == '/' && startsOperand place spaced rest then
        let length := 1 + delimitedLength fuel ⟨'/', '/', true⟩ 0 rest
        literal (length + ((source.drop length).takeWhile isNameChar).length)
      else if c == '%' && startsOperand place spaced rest then
        match percentOf? rest with
        | some (d, before) =>
          let length := before + delimitedLength fuel d 0 (source.drop before)
          let options := if rest.head? = some 'r' then ((source.drop length).takeWhile isNameChar).length else 0
          literal (length + options)
        | none => other ()
      else if c == '?' && startsOperand place spaced rest && isCharacterLiteral rest then
        literal (1 + characterLength rest)
      else if c == '<' && place != .afterClass && startsOperand place spaced (rest.drop 1) &&
          rest.head? = some '<' then
        match heredocOf? (rest.drop 1) with
        | some (heredoc, length) => ⟨.literal, length, .afterValue, false, some heredoc⟩
        | none => other ()
      else if c == ':' && rest.head? != some ':' && !(place = .afterValue && !spaced) then
        match rest with
        | '"' :: more => literal (2 + delimitedLength fuel ⟨'"', '"', true⟩ 0 more)
        | '\'' :: more => literal (2 + delimitedLength fuel ⟨'\'', '\'', false⟩ 0 more)
        | _ =>
          match symbolLength? rest with
          | some length => literal (1 + length)
          | none => other ()
      else other ()

end

def heredocsLength (pending : List Heredoc) (source : List Char) : Nat :=
  match pending with
  | [] => 0
  | heredoc :: others =>
    match source with
    | [] => 0
    | c :: rest =>
      let line := source.takeWhile (· != '\n')
      let content := if heredoc.mayIndent then line.dropWhile isSpace else line
      let content := (content.reverse.dropWhile (· == '\r')).reverse
      let remaining := if content == heredoc.mark then others else pending
      let length := line.length + 1
      length + heredocsLength remaining ((c :: rest).drop length)
termination_by source.length
decreasing_by simp only [List.length_drop, List.length_cons]; omega

def blockCommentLength (source : List Char) : Nat :=
  match source with
  | [] => 0
  | c :: rest =>
    let line := source.takeWhile (· != '\n')
    let length := line.length + 1
    if "=end".toList.isPrefixOf line then length
    else length + blockCommentLength ((c :: rest).drop length)
termination_by source.length
decreasing_by simp only [List.length_drop, List.length_cons]; omega

def startsBlockComment (source : List Char) : Bool :=
  match Text.afterPrefix? source "=begin".toList with
  | some rest => rest.head?.all fun c => isSpace c || c == '\n'
  | none => false

def continuesChain (source : List Char) : Bool :=
  match source with
  | [] => false
  | '&' :: '.' :: _ => true
  | '.' :: rest => rest.head? != some '.'
  | c :: rest =>
    if isSpace c || c == '\n' then continuesChain rest
    else if c == '#' then
      continuesChain (rest.drop (rest.takeWhile (· != '\n')).length)
    else false
termination_by source.length
decreasing_by all_goals simp only [List.length_drop, List.length_cons]; omega

def isEndMark (source : List Char) : Bool :=
  match Text.afterPrefix? source "__END__".toList with
  | some rest => rest.head?.all fun c => c == '\n' || c == '\r'
  | none => false

structure Lexer where
  offset : Nat
  line : Nat
  place : Place
  spaced : Bool
  atLineStart : Bool
  pending : List Heredoc

def newlines (text : List Char) : Nat := (text.filter (· == '\n')).length

def tokensFrom (s : Lexer) (source : List Char) : List Token :=
  match source with
  | [] => []
  | c :: rest =>
    if s.atLineStart && startsBlockComment (c :: rest) then
      let length := blockCommentLength (c :: rest)
      let skipped := (c :: rest).take length
      tokensFrom { s with offset := s.offset + skipped.length, line := s.line + newlines skipped }
        (rest.drop (length - 1))
    else if s.place = .start && isEndMark (c :: rest) then []
    else if c == '\n' then
      let bodies := (rest.take (heredocsLength s.pending rest))
      let next := rest.drop bodies.length
      let after : Lexer :=
        { offset := s.offset + 1 + bodies.length, line := s.line + 1 + newlines bodies, place := s.place,
          spaced := true, atLineStart := true, pending := [] }
      if s.place.isOpen || continuesChain next then tokensFrom after next
      else
        ⟨.lineEnd, [c], s.offset, s.line, s.spaced, false, false⟩ ::
          tokensFrom { after with place := .start } next
    else if isSpace c then
      tokensFrom { s with offset := s.offset + 1, spaced := true, atLineStart := false } rest
    else if c == '\\' && rest.head? = some '\n' then
      tokensFrom
        { s with offset := s.offset + 2, line := s.line + 1, spaced := true, atLineStart := false }
        (rest.drop 1)
    else
      let found := lexeme ((c :: rest).length + 1) s.place s.spaced (c :: rest)
      let more := found.length - 1
      let text := c :: rest.take more
      let token : Token :=
        ⟨found.kind, text, s.offset, s.line, s.spaced, s.place = .start, found.isUnary⟩
      let next : Lexer :=
        { offset := s.offset + text.length, line := s.line + newlines text, place := found.next,
          spaced := false, atLineStart := false,
          pending := s.pending ++ found.heredoc.toList }
      token :: tokensFrom next (rest.drop more)
termination_by source.length
decreasing_by all_goals simp only [List.length_drop, List.length_cons]; omega

def tokens (source : Octets) : List Token :=
  let characters := source.map fun o => Char.ofNat o.toNat
  let start : Lexer := ⟨0, 1, .start, false, true, []⟩
  match characters with
  | '\xef' :: '\xbb' :: '\xbf' :: rest => tokensFrom { start with offset := 3 } rest
  | characters => tokensFrom start characters

end RouteReport.Ruby
