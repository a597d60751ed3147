import RouteReport.Console.Wrap

namespace RouteReport.Console

structure Column where
  header : Text
  fixed : Option Nat
  cap : Option Nat
  cells : List Text

def cellPadding : Nat := 2

def Column.measure (column : Column) (available : Nat) : Nat :=
  if available == 0 then 0
  else match column.fixed with
    | some width => min (width + cellPadding) available
    | none =>
      let widths := (column.header :: column.cells).map fun cell =>
        if available ≤ cellPadding then available
        else min (textWidth cell + cellPadding) available
      let natural := widths.foldl max 0
      match column.cap with
      | some cap => min natural (cap + cellPadding)
      | none => natural

def totalOf (widths : List Nat) : Nat := widths.foldr (· + ·) 0

/-- The nearest integer to a quotient; halves go to the even neighbour. -/
def roundHalfEven (numerator denominator : Nat) : Nat :=
  let quotient := numerator / denominator
  let twice := 2 * (numerator % denominator)
  if twice < denominator then quotient
  else if denominator < twice then quotient + 1
  else quotient + quotient % 2

/-- Takes `total` from the values, each by its share and no more than its limit. A share is given as
`(ratio, limit, value)`. -/
def reduceShares (total ratios : Nat) : List (Nat × Nat × Nat) → List Nat
  | [] => []
  | (ratio, limit, value) :: rest =>
    if ratio == 0 || ratios == 0 then value :: reduceShares total ratios rest
    else
      let taken := min limit (roundHalfEven (ratio * total) ratios)
      (value - taken) :: reduceShares (total - taken) (ratios - ratio) rest

def reduceByRatio (total : Nat) (shares : List (Nat × Nat × Nat)) : List Nat :=
  let shares := shares.map fun (ratio, limit, value) => (if limit == 0 then 0 else ratio, limit, value)
  reduceShares total (totalOf (shares.map (·.1))) shares

/-- Narrows the widest of the columns that may shrink, step by step; each step takes at least one
cell of the excess. -/
def collapse (available : Nat) (canShrink : List Bool) : Nat → List Nat → List Nat
  | 0, widths => widths
  | steps + 1, widths =>
    let excess := totalOf widths - available
    let flexible := (widths.zip canShrink).map fun (width, may) => if may then width else 0
    let widest := flexible.foldl max 0
    let next := (flexible.filter (· != widest)).foldl max 0
    if excess == 0 || widest == next || widest == 0 then widths
    else
      let limit := min excess (widest - next)
      collapse available canShrink steps <| reduceByRatio excess <|
        (widths.zip flexible).map fun (width, flexible) =>
          (if flexible == widest then 1 else 0, limit, width)

def columnWidths (columns : List Column) (available : Nat) : List Nat :=
  let natural := columns.map fun column => max 1 (column.measure available)
  if totalOf natural ≤ available then natural
  else
    let shrunk := collapse available (columns.map (·.fixed.isNone)) (totalOf natural - available) natural
    let reduced := if totalOf shrunk ≤ available then shrunk
      else reduceByRatio (totalOf shrunk - available) (shrunk.map fun width => (1, width, width))
    (columns.zip reduced).map fun (column, width) => column.measure width

def cellLines (width : Nat) (text : Text) : List Text :=
  if width ≤ cellPadding then []
  else (wrap .ellipsis (width - cellPadding) text).map fun line =>
    fitCells (' ' :: fitCells line (width - cellPadding) ++ [' ']) width

def tableLine (left between right : Char) (parts : List Text) : Text :=
  left :: Text.join [between] parts ++ [right]

def rowLines (left between right : Char) (widths : List Nat) (cells : List Text) : List Text :=
  let columns := (widths.zip cells).map fun (width, cell) => (width, cellLines width cell)
  let height := (columns.map (·.2.length)).foldl max 1
  (List.range height).map fun i =>
    tableLine left between right (columns.map fun (width, lines) => (lines[i]?).getD (Text.spaces width))

def ruleLine (left line between right : Char) (widths : List Nat) : Text :=
  tableLine left between right (widths.map fun width => List.replicate width line)

def rowsOf (columns : List Column) : List (List Text) :=
  let height := (columns.map (·.cells.length)).foldl max 0
  (List.range height).map fun i => columns.map fun column => (column.cells[i]?).getD []

def tableLines (title : Text) (columns : List Column) (cells : Nat) : List Text :=
  let frame := columns.length + 1
  let widths := columnWidths columns (cells - frame)
  let width := totalOf widths + frame
  (wrap .fold width title).map (fun line => centre ' ' width line.trimRight) ++
    [ruleLine '┏' '━' '┳' '┓' widths] ++
    rowLines '┃' '┃' '┃' widths (columns.map (·.header)) ++
    [ruleLine '┡' '━' '╇' '┩' widths] ++
    (rowsOf columns).flatMap (rowLines '│' '│' '│' widths) ++
    [ruleLine '└' '─' '┴' '┘' widths]

def panelLines (title content : Text) (cells : Nat) : List Text :=
  let inner := cells - 4
  let top :=
    if cells ≤ 4 then List.replicate (cells - 2) '─'
    else '─' :: centre '─' inner (truncate .fold inner (' ' :: title ++ [' '])) ++ ['─']
  ('╭' :: top ++ ['╮']) ::
    (wrap .fold inner content).map (fun line => '│' :: ' ' :: fitCells line inner ++ [' ', '│']) ++
    ['╰' :: List.replicate (cells - 2) '─' ++ ['╯']]

end RouteReport.Console
