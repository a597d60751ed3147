import RouteReport.Ruby.Lexer
import RouteReport.Ruby.Node

/-! From tokens to nodes. Brackets and keywords with their `end` are closed from the inside out, so
each group is complete when what surrounds it is read. -/

namespace RouteReport.Ruby

/-- A token, or a group that has been closed: brackets with what they hold when read as arguments,
code up to an `end`, or a definition. -/
inductive Item where
  | token (token : Token)
  | brackets (opening : Token) (stop : Nat) (args : List Node) (plainNames : Nat)
  | block (opening : Token) (stop : Nat)
  | definition (opening : Token) (stop : Nat) (node : Node)

namespace Item

def opening : Item → Token
  | .token t => t
  | .brackets t _ _ _ => t
  | .block t _ => t
  | .definition t _ _ => t

def start (item : Item) : Nat := item.opening.start

def stop : Item → Nat
  | .token t => t.stop
  | .brackets _ stop _ _ => stop
  | .block _ stop => stop
  | .definition _ stop _ => stop

def token? : Item → Option Token
  | .token t => some t
  | _ => none

def isToken (item : Item) (test : Token → Bool) : Bool := item.token?.any test

def hasKind (item : Item) (kind : TokenKind) : Bool := item.isToken (·.kind = kind)

def isComment (item : Item) : Bool := item.hasKind .comment

def isLineEnd (item : Item) : Bool := item.hasKind .lineEnd

def isOperator (item : Item) (text : String) : Bool := item.isToken (·.isOperator text)

def isBracket (item : Item) (text : String) : Bool :=
  match item with
  | .brackets opening _ _ _ => opening.text == text.toList
  | _ => false

def isAdjoined (item : Item) (text : String) : Bool := item.isBracket text && !item.opening.spaced

def isDoBlock (item : Item) : Bool :=
  match item with
  | .block opening _ => opening.text == "do".toList
  | _ => false

def isBraceBlock (item : Item) : Bool := item.isBracket "\x7b"

def isCallBlock (item : Item) : Bool := item.isDoBlock || item.isBraceBlock

def isCallee (item : Item) : Bool := item.hasKind .name || item.hasKind .constant

end Item

def textOf (source : Octets) (items : List Item) : Octets :=
  match items.head?, items.getLast? with
  | some first, some last => (source.drop first.start).take (last.stop - first.start)
  | _, _ => []

def piecesBetween (separates : Item → Bool) (items : List Item) : List (List Item) :=
  items.foldr (fun item pieces =>
    if separates item then [] :: pieces
    else match pieces with
      | piece :: others => (item :: piece) :: others
      | [] => [[item]]) [[]]

def dropLast (test : Item → Bool) (items : List Item) : List Item :=
  (items.reverse.dropWhile test).reverse

def isChainTail : List Item → Bool
  | [] => true
  | first :: rest =>
    if first.isToken (·.isDot) then
      match rest with
      | member :: rest => (member.isCallee || member.isAdjoined "(") && isChainTail rest
      | [] => false
    else
      (first.isAdjoined "(" || first.isAdjoined "[" || first.isCallBlock) && isChainTail rest

def isChain : List Item → Bool
  | [] => false
  | first :: rest =>
    if first.isOperator "::" then
      match rest with
      | member :: rest => member.isCallee && isChainTail rest
      | [] => false
    else
      (first.isCallee || first.hasKind .literal || first.hasKind .keyword ||
        first.token?.isNone) && isChainTail rest

def isScopePath (items : List Item) : Bool :=
  match items.reverse with
  | last :: mark :: before =>
    last.hasKind .constant && mark.isOperator "::" &&
      (before.isEmpty || (!mark.opening.spaced && isChain before.reverse))
  | _ => false

def statementKeywords : List String := ["if", "unless", "while", "until", "rescue", "and", "or"]

def nonArgumentKeywords : List String :=
  statementKeywords ++ ["in", "then", "do", "end", "else", "elsif", "ensure", "when", "alias", "undef",
    "BEGIN", "END", "return", "break", "next", "redo", "retry"]

def startsArgument (item : Item) : Bool :=
  match item with
  | .token token =>
    match token.kind with
    | .name | .constant | .label | .literal => true
    | .keyword => !token.isKeyword nonArgumentKeywords
    | .operator => token.isUnary
    | _ => false
  | .brackets opening _ _ _ => opening.spaced && opening.text != ['\x7b']
  | .block opening _ => opening.text != "do".toList
  | .definition _ _ _ => true

def holdsCommand : List Item → Bool
  | first :: second :: rest =>
    (first.isCallee && startsArgument second) || holdsCommand (second :: rest)
  | _ => false

def endsInArrow (itemsBackward : List Item) : Bool :=
  match itemsBackward.dropWhile fun item =>
      item.isCallee || item.isOperator "," || item.isBracket "(" with
  | first :: _ => first.isOperator "->"
  | [] => false

/-- The items before a `do` block at their end that belongs to the call around them; `none` when
such a block is followed by more. -/
def withoutOuterBlock? (items : List Item) : Option (List Item) :=
  go items []
where
  go : List Item → List Item → Option (List Item)
    | [], seen => some seen.reverse
    | item :: rest, seen =>
      if item.isDoBlock && !endsInArrow seen then
        if rest.isEmpty then some seen.reverse else none
      else go rest (item :: seen)

def piecesAtCommas (begun : List Item) : List Item → List (List Item)
  | [] => [begun.reverse]
  | item :: rest =>
    if !item.isOperator "," then piecesAtCommas (item :: begun) rest
    else if holdsCommand begun.reverse then [begun.reverse ++ item :: rest]
    else begun.reverse :: piecesAtCommas [] rest

def argumentPieces (items : List Item) : List (List Item) :=
  (piecesAtCommas [] items).flatMap fun piece =>
    let before := piece.takeWhile (·.isComment)
    let rest := piece.dropWhile (·.isComment)
    let argument := dropLast (·.isComment) rest
    let after := rest.drop argument.length
    before.map ([·]) ++ (if argument.isEmpty then [] else [argument]) ++ after.map ([·])

def callOf? (items : List Item) : Option (Token × (List Node ⊕ List (List Item))) :=
  match items with
  | .token callee :: rest =>
    if !(callee.kind = .name || callee.kind = .constant || callee.isKeyword ["super"]) then none
    else match rest with
      | [] => if callee.kind = .name then some (callee, .inl []) else none
      | first :: others =>
        match first with
        | .brackets opening _ args _ =>
          if opening.text == ['('] && !opening.spaced then
            match others with
            | [] => some (callee, .inl args)
            | [block] => if block.isCallBlock then some (callee, .inl args) else none
            | _ => none
          else if first.isBraceBlock then if others.isEmpty then some (callee, .inl []) else none
          else commandOf callee rest
        | _ =>
          if first.isDoBlock then if others.isEmpty then some (callee, .inl []) else none
          else commandOf callee rest
  | _ => none
where
  commandOf (callee : Token) (rest : List Item) : Option (Token × (List Node ⊕ List (List Item))) := do
    guard (rest.head?.any startsArgument)
    let args ← withoutOuterBlock? rest
    guard !(args.any (·.isToken (·.isKeyword statementKeywords)))
    return (callee, .inr (argumentPieces (dropLast (·.isComment) args)))

def containerName (items : List Item) : List Item × List Item :=
  match items with
  | [] => ([], [])
  | first :: rest =>
    let (first, rest) :=
      if first.isOperator "::" then (first :: rest.take 1, rest.drop 1) else ([first], rest)
    go first rest
where
  go (name rest : List Item) : List Item × List Item :=
    match rest with
    | mark :: member :: more =>
      if mark.isToken (·.isDot) then go (name ++ [mark, member]) more
      else if mark.isAdjoined "(" || mark.isAdjoined "[" then go (name ++ [mark]) (member :: more)
      else (name, rest)
    | rest => (name, rest)

/-- A statement or an argument. Pieces shrink with every step, so `depth` need not exceed their
number of items. -/
def nodeOf (source : Octets) (depth : Nat) (items : List Item) : Node :=
  let text := textOf source items
  match items with
  | [.definition _ _ node] => node
  | items =>
    if items.length == 1 && items.all (·.hasKind .constant) then .constant text
    else if isScopePath items then .scopePath text
    else match callOf? items with
      | some (callee, .inl args) => .call text (tokenText callee) args
      | some (callee, .inr pieces) =>
        match depth with
        | 0 => .call text (tokenText callee) []
        | depth + 1 => .call text (tokenText callee) (pieces.map (nodeOf source depth))
      | none => .other text
where
  tokenText (token : Token) : Octets := (source.drop token.start).take token.text.length

def nodeOfItems (source : Octets) (items : List Item) : Node := nodeOf source items.length items

def plainNames (items : List Item) : Nat :=
  ((piecesBetween (·.isOperator ",") items).filter fun piece =>
    match piece.filter fun item => !item.isComment && !item.isLineEnd with
    | [item] => item.hasKind .name
    | _ => false).length

def statementPieces (items : List Item) : List (List Item) :=
  ((piecesBetween (·.isLineEnd) items).map fun piece =>
    dropLast (·.isComment) (piece.dropWhile (·.isComment))).filter (!·.isEmpty)

def startsClause (piece : List Item) : Bool :=
  piece.head?.any (·.isToken (·.isKeyword ["rescue", "else", "ensure"]))

def mergeClauses : List (List Item) → List (List Item)
  | [] => []
  | piece :: rest =>
    if startsClause piece then piece :: (rest.dropWhile (!startsClause ·)).filter startsClause
    else piece :: mergeClauses rest

structure Frame where
  opening : Token
  items : List Item
  awaitsDo : Bool
  isEndless : Bool

def isMethodHead (itemsBackward : List Item) : Bool :=
  let head := match itemsBackward with
    | item :: rest => if item.isBracket "(" && !rest.isEmpty then rest else item :: rest
    | [] => []
  match head with
  | [name] => name.hasKind .name
  | [name, dot, _] => name.hasKind .name && dot.isToken (·.isDot)
  | _ => false

def methodOf (source : Octets) (opening : Token) (text : Octets) (items : List Item) : Node :=
  match items with
  | .token name :: rest =>
    if rest.head?.any (·.isToken (·.isDot)) then .other text
    else
      let params := match rest with
        | .brackets bracket _ _ plain :: _ => if bracket.text == ['('] then plain else 0
        | rest =>
          if rest.head?.any (·.isOperator "=") then 0
          else plainNames (rest.takeWhile (!·.isLineEnd))
      .method text ⟨(source.drop name.start).take name.text.length, opening.line, params⟩
  | _ => .other text

def containerOf (source : Octets) (kind : ContainerKind) (text : Octets) (items : List Item) : Node :=
  let head := items.takeWhile (!·.isLineEnd)
  let body := items.drop head.length
  let (name, rest) := containerName (head.filter (!·.isComment))
  if name.head?.any (·.isOperator "<<") then .other text
  else
    let (superclass, rest) := match rest with
      | mark :: parent => if mark.isOperator "<" then (some parent, []) else (none, rest)
      | [] => (none, [])
    let pieces := mergeClauses (statementPieces (rest ++ body))
    .container text kind (textOf source name) (superclass.map (textOf source))
      (pieces.map (nodeOfItems source))

def Frame.close (source : Octets) (frame : Frame) (stop : Nat) : Item :=
  let items := frame.items.reverse
  let text := (source.drop frame.opening.start).take (stop - frame.opening.start)
  let opens (word : String) := frame.opening.text == word.toList
  if frame.opening.kind = .openBracket then
    let content := items.filter (!·.isLineEnd)
    let args := if opens "(" then (argumentPieces content).map (nodeOfItems source) else []
    .brackets frame.opening stop args (plainNames content)
  else if opens "def" then
    .definition frame.opening stop (methodOf source frame.opening text items)
  else if opens "class" then .definition frame.opening stop (containerOf source .classKind text items)
  else if opens "module" then .definition frame.opening stop (containerOf source .moduleKind text items)
  else .block frame.opening stop

/-- The frames that are open, the innermost first, and the items outside them all. -/
structure Nesting where
  frames : List Frame
  items : List Item

namespace Nesting

def push (n : Nesting) (item : Item) : Nesting :=
  match n.frames with
  | [] => { n with items := item :: n.items }
  | frame :: frames => { n with frames := { frame with items := item :: frame.items } :: frames }

def openFrame (n : Nesting) (token : Token) (awaitsDo : Bool) : Nesting :=
  { n with frames := ⟨token, [], awaitsDo, false⟩ :: n.frames }

def close (source : Octets) (n : Nesting) (token : Option Token) : Nesting :=
  match n.frames with
  | [] => n
  | frame :: frames =>
    let stop := match token, frame.items with
      | some token, _ => token.stop
      | none, item :: _ => item.stop
      | none, [] => frame.opening.stop
    push { n with frames } (frame.close source stop)

def closeEndless (source : Octets) (n : Nesting) : Nesting :=
  match n.frames with
  | frame :: _ => if frame.isEndless then n.close source none else n
  | [] => n

def updateTop (n : Nesting) (change : Frame → Frame) : Nesting :=
  match n.frames with
  | frame :: frames => { n with frames := change frame :: frames }
  | [] => n

def opensGroup (token : Token) : Bool :=
  token.isKeyword ["class", "module", "def", "begin", "case", "for"] ||
    (token.leads && token.isKeyword ["if", "unless", "while", "until"])

def isLoop (token : Token) : Bool := token.isKeyword ["while", "until", "for"]

def endsExpression (token : Token) : Bool :=
  token.kind = .lineEnd || token.kind = .closeBracket || token.isOperator "," ||
    token.isKeyword ["end", "and", "or"] ||
    (!token.leads && token.isKeyword ["if", "unless", "while", "until"])

def step (source : Octets) (n : Nesting) (token : Token) : Nesting :=
  let n := if endsExpression token then n.closeEndless source else n
  if token.kind = .openBracket then n.openFrame token false
  else if token.kind = .closeBracket then n.close source (some token)
  else if token.isKeyword ["end"] then n.close source (some token)
  else if token.isKeyword ["do"] then
    if n.frames.head?.any (·.awaitsDo) then
      (n.updateTop fun frame => { frame with awaitsDo := false }).push (.token token)
    else n.openFrame token false
  else if opensGroup token then n.openFrame token (isLoop token)
  else if token.kind = .lineEnd then
    (n.updateTop fun frame => { frame with awaitsDo := false }).push (.token token)
  else
    let startsBody := token.isOperator "=" && n.frames.head?.any fun frame =>
      frame.opening.isKeyword ["def"] && !frame.isEndless && isMethodHead frame.items
    (n.updateTop fun frame => { frame with isEndless := frame.isEndless || startsBody }).push
      (.token token)

def finish (source : Octets) (n : Nesting) : List Item :=
  (n.frames.foldl (fun n _ => n.close source none) n).items.reverse

end Nesting

def read (source : Octets) : List Node :=
  let nesting := (tokens source).foldl (Nesting.step source) ⟨[], []⟩
  (statementPieces (nesting.finish source)).map (nodeOfItems source)

end RouteReport.Ruby
