import RouteReport.Document.Basic
import RouteReport.Document.YamlScalar

namespace RouteReport.Document.Yaml

mutual

/-- A value after the name of its field, which ends at a column. Records are indented below their
field, lists are not. -/
def valueAfter (indent column : Nat) : Document → Text
  | .text value => ' ' :: scalar (indent + 2) (column + 1) value
  | .number value => ' ' :: Document.ofInt value
  | .list [] => " []".toList
  | .record [] => ' ' :: '\x7b' :: ['\x7d']
  | .list (item :: items) => newline indent ++ itemLines indent (item :: items)
  | .record (field :: fields) => newline (indent + 2) ++ fieldLines (indent + 2) (field :: fields)

def itemValue (indent : Nat) : Document → Text
  | .text value => scalar (indent + 2) (indent + 2) value
  | .number value => Document.ofInt value
  | .list [] => "[]".toList
  | .record [] => '\x7b' :: ['\x7d']
  | .list (item :: items) => itemLines (indent + 2) (item :: items)
  | .record (field :: fields) => fieldLines (indent + 2) (field :: fields)

def itemLines (indent : Nat) : List Document → Text
  | [] => []
  | item :: rest =>
    '-' :: ' ' :: itemValue indent item ++
      match rest with
      | [] => []
      | next :: rest => newline indent ++ itemLines indent (next :: rest)

def fieldLines (indent : Nat) : List (Text × Document) → Text
  | [] => []
  | (name, value) :: rest =>
    fieldName name ++ ':' :: valueAfter indent (indent + (fieldName name).length + 1) value ++
      match rest with
      | [] => []
      | next :: rest => newline indent ++ fieldLines indent (next :: rest)

end

def encode (document : Document) : Text :=
  (match document with
  | .text value => scalar 2 0 value
  | .number value => Document.ofInt value
  | .list [] => "[]".toList
  | .record [] => '\x7b' :: ['\x7d']
  | .list (item :: items) => itemLines 0 (item :: items)
  | .record (field :: fields) => fieldLines 0 (field :: fields)) ++ ['\n']

end RouteReport.Document.Yaml
