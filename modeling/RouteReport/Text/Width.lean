import RouteReport.Text.Basic
import RouteReport.Text.WidthTable

namespace RouteReport.Text

def joiner : Char := '\u200d'

def emojiSelector : Char := '\ufe0f'

def charWidth (c : Char) : Nat :=
  let n := c.toNat
  if n < 127 then if n == 0 || 32 ≤ n then 1 else 0
  else if n < 0xa0 then 0
  else if zeroWidthRanges.contains c then 0
  else if wideRanges.contains c then 2
  else 1

/-- The characters of a text with the ones that share their cells: marks stay with the character
before them, and a joiner takes the next character along. -/
def clusters : Text → List (Text × Nat)
  | [] => []
  | text => (go text []).reverse
where
  extend (done : List (Text × Nat)) (more : Text) : List (Text × Nat) :=
    match done with
    | [] => [(more, 0)]
    | (cluster, width) :: earlier => (cluster ++ more, width) :: earlier
  go : Text → List (Text × Nat) → List (Text × Nat)
    | [], done => done
    | c :: rest, done =>
      if c == joiner && !done.isEmpty then
        match rest with
        | [] => extend done [c]
        | next :: rest => go rest (extend done [c, next])
      else if charWidth c == 0 || c == emojiSelector then go rest (extend done [c])
      else go rest (([c], charWidth c) :: done)

def width (text : Text) : Nat :=
  (clusters text).foldr (fun (_, cells) total => cells + total) 0

end RouteReport.Text
