import RouteReport.Text.Basic

namespace RouteReport.Text

/-- Tabs to carriage return, the four information separators, and the spaces of every script. -/
def isBlank (c : Char) : Bool :=
  let n := c.toNat
  (9 ≤ n && n ≤ 13) || (28 ≤ n && n ≤ 32) || n == 0x85 || n == 0xa0 || n == 0x1680 ||
    (0x2000 ≤ n && n ≤ 0x200a) || n == 0x2028 || n == 0x2029 || n == 0x202f || n == 0x205f ||
    n == 0x3000

def trimLeft (text : Text) : Text := text.dropWhile isBlank

def trimRight (text : Text) : Text := text.dropRightWhile isBlank

def trim (text : Text) : Text := trimRight (trimLeft text)

def words (text : Text) : List Text :=
  let (done, last) := text.foldr (fun c (pieces, piece) =>
    if isBlank c then (if piece.isEmpty then pieces else piece :: pieces, [])
    else (pieces, c :: piece)) (([] : List Text), ([] : Text))
  if last.isEmpty then done else last :: done

end RouteReport.Text
