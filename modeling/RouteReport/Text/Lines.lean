import RouteReport.Text.Basic

namespace RouteReport.Text

/-- Every line feed ends a line; text after the last one is a line of its own. -/
def lines (text : Text) : List Text :=
  match (text.splitOn '\n').reverse with
  | [] :: done => done.reverse
  | pieces => pieces.reverse

def unifyLineEnds : Text → Text
  | [] => []
  | '\r' :: '\n' :: rest => '\n' :: unifyLineEnds rest
  | '\r' :: rest => '\n' :: unifyLineEnds rest
  | c :: rest => c :: unifyLineEnds rest

def withoutLineEnd (line : Text) : Text := line.dropRightWhile fun c => c == '\r' || c == '\n'

def isLineBreak (c : Char) : Bool :=
  let n := c.toNat
  (10 ≤ n && n ≤ 13) || (28 ≤ n && n ≤ 30) || n == 0x85 || n == 0x2028 || n == 0x2029

/-- The lines a viewer shows; a carriage return with its line feed is one break. -/
def viewedLines (text : Text) : List Text :=
  let (done, last) := go text []
  if last.isEmpty then done else done ++ [last]
where
  go : Text → Text → List Text × Text
    | [], line => ([], line.reverse)
    | '\r' :: '\n' :: rest, line =>
      let (done, last) := go rest []
      (line.reverse :: done, last)
    | c :: rest, line =>
      if isLineBreak c then
        let (done, last) := go rest []
        (line.reverse :: done, last)
      else go rest (c :: line)

end RouteReport.Text
