import RouteReport.Console.Style

/-! Text with style tags such as `[bold]`. Only the text between the tags is shown; a closing tag
must have something to close. -/

namespace RouteReport.Console

structure Tag where
  name : Text
  parameters : Option Text
  deriving DecidableEq, Repr

def Tag.markup (tag : Tag) : Text :=
  match tag.parameters with
  | some parameters => '[' :: tag.name ++ '=' :: parameters ++ [']']
  | none => '[' :: tag.name ++ [']']

inductive MarkupFault where
  | noOpenTag (tag : Tag) (position : Nat)
  | nothingToClose (tag : Tag) (position : Nat)
  deriving DecidableEq, Repr

def MarkupFault.message : MarkupFault → Text
  | .noOpenTag tag position =>
    "closing tag '".toList ++ tag.markup ++ "' at position ".toList ++ Text.ofNat position ++
      " doesn't match any open tag".toList
  | .nothingToClose tag position =>
    "closing tag '".toList ++ tag.markup ++ "' at position ".toList ++ Text.ofNat position ++
      " has nothing to close".toList

inductive MarkupPart where
  | text (text : Text)
  | tag (tag : Tag) (position : Nat)
  deriving DecidableEq, Repr

def startsTag (c : Char) : Bool := Text.isAsciiLower c || c == '#' || c == '/' || c == '@'

/-- Backslashes, then a tag: their number and what stands in the brackets. -/
def tagAt? (text : Text) : Option (Nat × Text) :=
  let (slashes, rest) := Text.run text (· == '\\')
  match rest with
  | '[' :: c :: more =>
    let (body, tail) := Text.run more fun d => d != '[' && d != ']'
    if startsTag c && tail.head? = some ']' then some (slashes.length, c :: body) else none
  | _ => none

def tagOf (content : Text) : Tag :=
  match content.cut? ['='] with
  | some (name, parameters) => ⟨name, some parameters⟩
  | none => ⟨content, none⟩

def unescapeBrackets (text : Text) : Text := text.replaceAll ['\\', '['] ['[']

def textPart (textBackward : Text) : List MarkupPart :=
  if textBackward.isEmpty then [] else [.text (unescapeBrackets textBackward.reverse)]

/-- Two backslashes before a tag stand for one, and an odd one makes the tag text. -/
def partsFrom (position : Nat) (textBackward : Text) (text : Text) : List MarkupPart :=
  match text with
  | [] => textPart textBackward
  | c :: rest =>
    match tagAt? (c :: rest) with
    | none => partsFrom (position + 1) (c :: textBackward) rest
    | some (slashes, content) =>
      let length := slashes + content.length + 2
      let shown := List.replicate (slashes / 2) '\\'
      let here : List MarkupPart :=
        if slashes % 2 == 1 then [.text (unescapeBrackets ('[' :: content ++ [']']))]
        else [.tag (tagOf content) (position + slashes)]
      textPart textBackward ++ (if shown.isEmpty then [] else [.text shown]) ++ here ++
        partsFrom (position + length) [] (rest.drop (length - 1))
termination_by text.length
decreasing_by all_goals simp only [List.length_drop, List.length_cons]; omega

def parts (markup : Text) : List MarkupPart := partsFrom 0 [] markup

def closeTag? (name : Text) : List Text → Option (List Text)
  | [] => none
  | opened :: rest =>
    if opened == name then some rest else (closeTag? name rest).map (opened :: ·)

/-- The open styles after a tag, the one opened last in front. -/
def applyTag (opened : List Text) (tag : Tag) (position : Nat) : Except MarkupFault (List Text) :=
  match tag.name with
  | '/' :: name =>
    let name := Text.trim name
    if name.isEmpty then
      match opened with
      | _ :: rest => .ok rest
      | [] => .error (.nothingToClose tag position)
    else match closeTag? (normalStyle name) opened with
      | some rest => .ok rest
      | none => .error (.noOpenTag tag position)
  | name => .ok (normalStyle name :: opened)

def isHidden (c : Char) : Bool :=
  let n := c.toNat
  n == 7 || n == 8 || (11 ≤ n && n ≤ 13)

def shownParts (opened : List Text) : List MarkupPart → Except MarkupFault Text
  | [] => .ok []
  | .text text :: rest => (shownParts opened rest).map (text.filter (!isHidden ·) ++ ·)
  | .tag tag position :: rest => do shownParts (← applyTag opened tag position) rest

def shown (markup : Text) : Except MarkupFault Text := shownParts [] (parts markup)

end RouteReport.Console
