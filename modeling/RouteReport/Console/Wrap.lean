import RouteReport.Text.Blank
import RouteReport.Text.Lines
import RouteReport.Text.Width

namespace RouteReport.Console

inductive Overflow where
  | fold
  | ellipsis
  deriving DecidableEq, Repr

def fitCells (text : Text) (cells : Nat) : Text :=
  let width := text.width
  if width ≤ cells then text ++ Text.spaces (cells - width) else take cells text.clusters
where
  take (cells : Nat) : List (Text × Nat) → Text
    | [] => []
    | (cluster, width) :: rest =>
      if cells == 0 then []
      else if width ≤ cells then cluster ++ take (cells - width) rest
      else Text.spaces cells

def chop (text : Text) (cells : Nat) : List Text :=
  go [] 0 text.clusters
where
  go (line : Text) (used : Nat) : List (Text × Nat) → List Text
    | [] => if used == 0 then [] else [line]
    | (cluster, width) :: rest =>
      if cells < used + width then line :: go cluster width rest
      else go (line ++ cluster) (used + width) rest

def spacedWords (text : Text) : List Text :=
  let (gap, rest) := Text.run text Text.isBlank
  if rest.isEmpty then []
  else match rest.splitBy fun a b => !(Text.isBlank a && !Text.isBlank b) with
    | first :: others => (gap ++ first) :: others
    | [] => []

/-- Lines that break before words; `line` is the one begun, of which `used` cells are taken. -/
def breakWords (overflow : Overflow) (cells : Nat) (line : Text) (used : Nat) :
    List Text → List Text
  | [] => [line]
  | word :: rest =>
    let wordWidth := Text.width word.trimRight
    let before := if line.isEmpty then [] else [line]
    if used + wordWidth ≤ cells then
      breakWords overflow cells (line ++ word) (used + Text.width word) rest
    else if cells < wordWidth && overflow = .fold then
      let pieces := chop word cells
      let last := pieces.getLast?.getD []
      before ++ pieces.dropLast ++ breakWords overflow cells last last.width rest
    else before ++ breakWords overflow cells word (Text.width word) rest

def breakLine (overflow : Overflow) (cells : Nat) (line : Text) : List Text :=
  match spacedWords line with
  | [] => [line]
  | words => breakWords overflow cells [] 0 words

def cropEnd (cells : Nat) (line : Text) : Text :=
  let trailing := line.length - line.trimRight.length
  line.take (line.length - min trailing (line.length - cells))

def truncate (overflow : Overflow) (cells : Nat) (line : Text) : Text :=
  if line.width ≤ cells then line
  else match overflow with
    | .fold => fitCells line cells
    | .ellipsis => fitCells line (cells - 1) ++ ['…']

def expandTabs (line : Text) : Text :=
  match line.splitOn '\t' with
  | [] => []
  | first :: rest => rest.foldl (fun done part => done ++ Text.spaces (8 - done.width % 8) ++ part) first

def wrap (overflow : Overflow) (cells : Nat) (text : Text) : List Text :=
  (text.splitOn '\n').flatMap fun line =>
    (breakLine overflow cells (expandTabs line)).map fun piece =>
      truncate overflow cells (cropEnd cells piece)

def textWidth (text : Text) : Nat := ((Text.viewedLines text).map Text.width).foldl max 0

def centre (fill : Char) (cells : Nat) (line : Text) : Text :=
  let excess := cells - line.width
  List.replicate (excess / 2) fill ++ line ++ List.replicate (excess - excess / 2) fill

end RouteReport.Console
