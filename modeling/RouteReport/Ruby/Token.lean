import RouteReport.Text.Utf8

/-! Tokens of Ruby source. Octets are viewed as the characters of the same number; those outside
ASCII occur in names and literals only. -/

namespace RouteReport.Ruby

inductive TokenKind where
  | name
  | constant
  | keyword
  | label
  | literal
  | operator
  | openBracket
  | closeBracket
  | lineEnd
  | comment
  deriving DecidableEq, Repr

structure Token where
  kind : TokenKind
  text : List Char
  start : Nat
  line : Nat
  spaced : Bool
  leads : Bool
  isUnary : Bool
  deriving Repr

namespace Token

def stop (token : Token) : Nat := token.start + token.text.length

def isOperator (token : Token) (text : String) : Bool :=
  token.kind = .operator && token.text == text.toList

def isKeyword (token : Token) (texts : List String) : Bool :=
  token.kind = .keyword && texts.any fun text => token.text == text.toList

def isDot (token : Token) : Bool :=
  token.isOperator "." || token.isOperator "&." || (token.isOperator "::" && !token.isUnary)

end Token

def isNameStart (c : Char) : Bool :=
  ('a' ≤ c && c ≤ 'z') || c == '_' || 128 ≤ c.toNat

def isConstantStart (c : Char) : Bool := 'A' ≤ c && c ≤ 'Z'

def isNameChar (c : Char) : Bool :=
  isNameStart c || isConstantStart c || ('0' ≤ c && c ≤ '9')

def isSpace (c : Char) : Bool := c == ' ' || c == '\t' || c == '\r' || c == '\x0b' || c == '\x0c'

def keywords : List String :=
  ["alias", "and", "begin", "BEGIN", "break", "case", "class", "def", "defined?", "do", "else",
   "elsif", "end", "END", "ensure", "false", "for", "if", "in", "module", "next", "nil", "not", "or",
   "redo", "rescue", "retry", "return", "self", "super", "then", "true", "undef", "unless", "until",
   "when", "while", "yield", "__FILE__", "__LINE__", "__ENCODING__"]

def operators : List String :=
  ["**=", "<=>", "===", "...", "<<=", ">>=", "&&=", "||=", "&.", "**", "==", "!=", ">=", "<=", "&&",
   "||", "=~", "!~", "..", "::", "->", "=>", "+=", "-=", "*=", "/=", "%=", "&=", "|=", "^=", "<<",
   ">>", "+", "-", "*", "/", "%", "=", "<", ">", "!", "~", "?", ":", "&", "|", "^", ".", ",", "\\"]

def methodOperators : List String :=
  ["[]=", "[]", "<=>", "===", "==", "=~", "!=", "!~", "!@", "**", "+@", "-@", "~@", "<<", "<=", ">>",
   ">=", "+", "-", "*", "/", "%", "<", ">", "&", "|", "^", "~", "!", "\x60"]

def firstPrefix? (texts : List String) (source : List Char) : Option (List Char) :=
  (texts.map String.toList).find? (·.isPrefixOf source)

end RouteReport.Ruby
