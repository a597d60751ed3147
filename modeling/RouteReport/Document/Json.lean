import RouteReport.Document.Basic
import RouteReport.Text.Quoted

namespace RouteReport.Document.Json

def unitEscapes (n : Nat) : Text :=
  if n < 0x10000 then '\\' :: 'u' :: Text.hex 4 n
  else
    let offset := n - 0x10000
    '\\' :: 'u' :: Text.hex 4 (0xd800 + offset / 0x400) ++
      '\\' :: 'u' :: Text.hex 4 (0xdc00 + offset % 0x400)

def encodeChar (c : Char) : Text :=
  if c == '"' then ['\\', '"']
  else if c == '\\' then ['\\', '\\']
  else if c == '\n' then ['\\', 'n']
  else if c == '\r' then ['\\', 'r']
  else if c == '\t' then ['\\', 't']
  else if c == '\x0c' then ['\\', 'f']
  else if c == '\x08' then ['\\', 'b']
  else if 32 ≤ c.toNat && c.toNat < 127 then [c]
  else unitEscapes c.toNat

def encodeText (text : Text) : Text := '"' :: text.flatMap encodeChar ++ ['"']

def newline (depth : Nat) : Text := '\n' :: Text.spaces (2 * depth)

def bracketed (opening closing : Char) (depth : Nat) (parts : List Text) : Text :=
  if parts.isEmpty then [opening, closing]
  else opening :: newline (depth + 1) ++ Text.join (',' :: newline (depth + 1)) parts ++
    newline depth ++ [closing]

mutual

def encodeAt (depth : Nat) : Document → Text
  | .text value => encodeText value
  | .number value => Document.ofInt value
  | .list items => bracketed '[' ']' depth (encodeItems (depth + 1) items)
  | .record fields => bracketed '\x7b' '\x7d' depth (encodeFields (depth + 1) fields)

def encodeItems (depth : Nat) : List Document → List Text
  | [] => []
  | item :: rest => encodeAt depth item :: encodeItems depth rest

def encodeFields (depth : Nat) : List (Text × Document) → List Text
  | [] => []
  | (name, value) :: rest =>
    (encodeText name ++ ':' :: ' ' :: encodeAt depth value) :: encodeFields depth rest

end

def encode (document : Document) : Text := encodeAt 0 document

end RouteReport.Document.Json
