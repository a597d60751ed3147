import RouteReport.Text.Basic
import RouteReport.Text.CaseTable

namespace RouteReport.Text

def CaseRun.contains (run : CaseRun) (n : Nat) : Bool :=
  run.first ≤ n && n ≤ run.last && (n - run.first) % run.step == 0

def imageIn (runs : List CaseRun) (c : Char) : Char :=
  match runs.find? (·.contains c.toNat) with
  | some run => Char.ofNat (run.image + (c.toNat - run.first))
  | none => c

def sequenceIn? (sequences : List (Nat × List Nat)) (c : Char) : Option Text :=
  (sequences.lookup c.toNat).map (·.map Char.ofNat)

def isCased (c : Char) : Bool :=
  if c.toNat < 128 then isAsciiLetter c else casedRanges.contains c

def isCaseIgnorable (c : Char) : Bool :=
  if c.toNat < 128 then c == '\'' || c == '.' || c == ':' || c == '^' || c == '\x60'
  else caseIgnorableRanges.contains c

def nextIsCased (text : Text) : Bool := (text.dropWhile isCaseIgnorable).head?.any isCased

/-- The lower case of `c` between `before`, read backwards, and `after`. -/
def lowerBetween (before : Text) (c : Char) (after : Text) : Text :=
  if c.toNat < 128 then [if isAsciiUpper c then Char.ofNat (c.toNat + 32) else c]
  else if c == 'Σ' then [if nextIsCased before && !nextIsCased after then 'ς' else 'σ']
  else if c == 'İ' then ['i', '\u0307']
  else [imageIn lowerRuns c]

def lowerAfter (before : Text) : Text → Text
  | [] => []
  | c :: rest => lowerBetween before c rest ++ lowerAfter (c :: before) rest

def lower (text : Text) : Text := lowerAfter [] text

def upperChar (c : Char) : Text :=
  if c.toNat < 128 then [if isAsciiLower c then Char.ofNat (c.toNat - 32) else c]
  else (sequenceIn? upperSequences c).getD [imageIn upperRuns c]

def upper (text : Text) : Text := text.flatMap upperChar

def titleChar (c : Char) : Text :=
  if c.toNat < 128 then upperChar c else (sequenceIn? titleSequences c).getD (upperChar c)

def capitalize : Text → Text
  | [] => []
  | c :: rest => titleChar c ++ lowerAfter [c] rest

end RouteReport.Text
