/-! Text, and the cuts and searches on it that every reader and writer here shares. -/

namespace RouteReport

/-- Text is a list of characters, so every scan is recursion on its data. -/
abbrev Text := List Char

namespace Text

/-- What stands before and after the first occurrence of `mark`. -/
def cut? (text mark : Text) : Option (Text × Text) :=
  match text with
  | [] => if mark.isEmpty then some ([], []) else none
  | c :: rest =>
    if mark.isPrefixOf (c :: rest) then some ([], (c :: rest).drop mark.length)
    else (cut? rest mark).map fun (before, after) => (c :: before, after)

theorem append_of_cut? {mark text before after : Text}
    (found : cut? text mark = some (before, after)) : text = before ++ mark ++ after := by
  induction text generalizing before with
  | nil =>
    simp only [cut?] at found
    split at found
    · simp_all
    · simp at found
  | cons c rest ih =>
    simp only [cut?] at found
    split at found
    · rename_i starts
      obtain ⟨tail, eq⟩ := List.isPrefixOf_iff_prefix.mp starts
      simp only [Option.some.injEq, Prod.mk.injEq] at found
      obtain ⟨rfl, rfl⟩ := found
      rw [← eq]
      simp
    · obtain ⟨⟨b, a⟩, hit, eq⟩ := Option.map_eq_some_iff.mp found
      simp only [Prod.mk.injEq] at eq
      obtain ⟨rfl, rfl⟩ := eq
      rw [ih hit]
      simp

def cutLast? (text mark : Text) : Option (Text × Text) :=
  (cut? text.reverse mark.reverse).map fun (after, before) => (before.reverse, after.reverse)

theorem append_of_cutLast? {mark text before after : Text}
    (found : cutLast? text mark = some (before, after)) : text = before ++ mark ++ after := by
  obtain ⟨⟨b, a⟩, hit, eq⟩ := Option.map_eq_some_iff.mp found
  simp only [Prod.mk.injEq] at eq
  obtain ⟨rfl, rfl⟩ := eq
  have reversed := congrArg List.reverse (append_of_cut? hit)
  simpa using reversed

def holds (text mark : Text) : Bool := (cut? text mark).isSome

def splitOn (text : Text) (separator : Char) : List Text :=
  match text with
  | [] => [[]]
  | c :: rest =>
    if c == separator then [] :: splitOn rest separator
    else match splitOn rest separator with
      | piece :: pieces => (c :: piece) :: pieces
      | [] => [[c]]

def join (separator : Text) : List Text → Text
  | [] => []
  | [piece] => piece
  | piece :: next :: pieces => piece ++ separator ++ join separator (next :: pieces)

def afterPrefix? (text mark : Text) : Option Text :=
  if mark.isPrefixOf text then some (text.drop mark.length) else none

def beforeSuffix? (text mark : Text) : Option Text :=
  if mark.isSuffixOf text then some (text.take (text.length - mark.length)) else none

/-- Every occurrence of `mark`, from left to right and without overlap, becomes `image`.
An empty `mark` stands nowhere. -/
def replaceAll (text mark image : Text) : Text :=
  match text with
  | [] => []
  | c :: rest =>
    if mark.isPrefixOf (c :: rest) && !mark.isEmpty then
      image ++ replaceAll (rest.drop (mark.length - 1)) mark image
    else c :: replaceAll rest mark image
termination_by text.length
decreasing_by all_goals (simp only [List.length_drop, List.length_cons]; omega)

def run (text : Text) (member : Char → Bool) : Text × Text :=
  (text.takeWhile member, text.dropWhile member)

def dropRightWhile (text : Text) (member : Char → Bool) : Text :=
  (text.reverse.dropWhile member).reverse

def spaces (n : Nat) : Text := List.replicate n ' '

def ofNat (n : Nat) : Text := Nat.toDigits 10 n

def padLeft (text : Text) (width : Nat) : Text := spaces (width - text.length) ++ text

def isAsciiLower (c : Char) : Bool := 'a' ≤ c && c ≤ 'z'

def isAsciiUpper (c : Char) : Bool := 'A' ≤ c && c ≤ 'Z'

def isAsciiDigit (c : Char) : Bool := '0' ≤ c && c ≤ '9'

def isAsciiLetter (c : Char) : Bool := isAsciiLower c || isAsciiUpper c

def le : Text → Text → Bool
  | [], _ => true
  | _ :: _, [] => false
  | a :: as, b :: bs => a.toNat < b.toNat || (a == b && le as bs)

end Text

end RouteReport
