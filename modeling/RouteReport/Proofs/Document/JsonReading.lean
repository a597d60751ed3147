import RouteReport.Document.Basic
import RouteReport.Proofs.TextLaws

/-! A reader of JSON as RFC 8259 gives its grammar. A text is read token by token into a stack of the
lists and records that are open. -/

namespace RouteReport.Document.Json

structure Number where
  mantissa : Int
  exponent : Int
  deriving DecidableEq, Repr

inductive Value where
  | null
  | bool (value : Bool)
  | number (value : Number)
  | text (value : Text)
  | list (items : List Value)
  | record (fields : List (Text × Value))
  deriving Inhabited, Repr

/-! Texts: characters that stand for themselves and escapes, up to the closing quote. -/

def hexValue? (c : Char) : Option Nat :=
  if '0' ≤ c && c ≤ '9' then some (c.toNat - 48)
  else if 'a' ≤ c && c ≤ 'f' then some (c.toNat - 87)
  else if 'A' ≤ c && c ≤ 'F' then some (c.toNat - 55)
  else none

def unit? (a b c d : Char) : Option Nat := do
  return (((← hexValue? a) * 16 + (← hexValue? b)) * 16 + (← hexValue? c)) * 16 + (← hexValue? d)

def shortEscape? : Char → Option Char
  | '"' => some '"'
  | '\\' => some '\\'
  | '/' => some '/'
  | 'b' => some '\x08'
  | 'f' => some '\x0c'
  | 'n' => some '\n'
  | 'r' => some '\r'
  | 't' => some '\t'
  | _ => none

inductive Piece where
  | char (c : Char)
  | unit (n : Nat)
  deriving DecidableEq, Repr

def pieces? : Text → Option (List Piece × Text)
  | [] => none
  | c :: rest =>
    if c = '"' then some ([], rest)
    else if c = '\\' then
      match rest with
      | 'u' :: a :: b :: c :: d :: rest =>
        (unit? a b c d).bind fun n => (pieces? rest).map fun (pieces, after) => (.unit n :: pieces, after)
      | c :: rest =>
        (shortEscape? c).bind fun c => (pieces? rest).map fun (pieces, after) => (.char c :: pieces, after)
      | [] => none
    else if c.toNat < 32 then none
    else (pieces? rest).map fun (pieces, after) => (.char c :: pieces, after)

def isHighUnit (n : Nat) : Bool := 0xd800 ≤ n && n < 0xdc00

def isLowUnit (n : Nat) : Bool := 0xdc00 ≤ n && n < 0xe000

def combine? : List Piece → Option Text
  | [] => some []
  | .char c :: rest => (combine? rest).map (c :: ·)
  | .unit n :: rest =>
    if isHighUnit n then
      match rest with
      | .unit low :: rest =>
        if isLowUnit low then
          (combine? rest).map (Char.ofNat (0x10000 + (n - 0xd800) * 0x400 + (low - 0xdc00)) :: ·)
        else none
      | _ => none
    else if isLowUnit n then none
    else (combine? rest).map (Char.ofNat n :: ·)

def text? (text : Text) : Option (Text × Text) := do
  let (pieces, after) ← pieces? text
  return (← combine? pieces, after)

/-! Numbers: a sign, digits without a zero in front, a fraction and an exponent. -/

def digits? (text : Text) : Option (Text × Text) :=
  let (digits, after) := text.run Char.isDigit
  if digits.isEmpty then none else some (digits, after)

def whole? (text : Text) : Option (Text × Text) := do
  let (digits, after) ← digits? text
  if digits.head? = some '0' ∧ digits ≠ ['0'] then none else some (digits, after)

def fraction? : Text → Option (Text × Text)
  | '.' :: rest => digits? rest
  | rest => some ([], rest)

def numeral (digits : Text) : Int := Nat.ofDigitChars 10 digits 0

def power? : Text → Option (Int × Text)
  | '-' :: rest => (digits? rest).map fun (digits, after) => (-numeral digits, after)
  | '+' :: rest => (digits? rest).map fun (digits, after) => (numeral digits, after)
  | rest => (digits? rest).map fun (digits, after) => (numeral digits, after)

def exponent? : Text → Option (Int × Text)
  | 'e' :: rest => power? rest
  | 'E' :: rest => power? rest
  | rest => some (0, rest)

def unsigned? (text : Text) : Option (Number × Text) := do
  let (whole, rest) ← whole? text
  let (fraction, rest) ← fraction? rest
  let (exponent, after) ← exponent? rest
  return (⟨numeral (whole ++ fraction), exponent - fraction.length⟩, after)

def number? : Text → Option (Number × Text)
  | '-' :: rest => (unsigned? rest).map fun (read, after) => (⟨-read.mantissa, read.exponent⟩, after)
  | rest => unsigned? rest

inductive Token where
  | openList
  | closeList
  | openRecord
  | closeRecord
  | comma
  | colon
  | value (value : Value)

def word? (word : String) (value : Value) (text : Text) : Option (Token × Text) :=
  (text.afterPrefix? word.toList).map (.value value, ·)

def token? : Text → Option (Token × Text)
  | '[' :: rest => some (.openList, rest)
  | ']' :: rest => some (.closeList, rest)
  | '\x7b' :: rest => some (.openRecord, rest)
  | '\x7d' :: rest => some (.closeRecord, rest)
  | ',' :: rest => some (.comma, rest)
  | ':' :: rest => some (.colon, rest)
  | '"' :: rest => (text? rest).map fun (read, after) => (.value (.text read), after)
  | 't' :: rest => word? "rue" (.bool true) rest
  | 'f' :: rest => word? "alse" (.bool false) rest
  | 'n' :: rest => word? "ull" .null rest
  | rest => (number? rest).map fun (read, after) => (.value (.number read), after)

inductive Frame where
  | list (items : List Value)
  | record (fields : List (Text × Value)) (name : Text)

inductive Stage where
  | value
  | item
  | field
  | name (fields : List (Text × Value))
  | colon (fields : List (Text × Value)) (name : Text)
  | done (value : Value)

structure State where
  frames : List Frame
  stage : Stage

def assign (fields : List (Text × Value)) (name : Text) (value : Value) : List (Text × Value) :=
  match fields with
  | [] => [(name, value)]
  | field :: rest =>
    if field.1 = name then (name, value) :: rest else field :: assign rest name value

namespace State

def begin? (frames : List Frame) : Token → Option State
  | .openList => some ⟨frames, .item⟩
  | .openRecord => some ⟨frames, .field⟩
  | .value value => some ⟨frames, .done value⟩
  | _ => none

def step? (state : State) (token : Token) : Option State :=
  match state.stage, state.frames, token with
  | .value, frames, token => begin? frames token
  | .item, frames, .closeList => some ⟨frames, .done (.list [])⟩
  | .item, frames, token => begin? (.list [] :: frames) token
  | .field, frames, .closeRecord => some ⟨frames, .done (.record [])⟩
  | .field, frames, .value (.text name) => some ⟨frames, .colon [] name⟩
  | .name fields, frames, .value (.text name) => some ⟨frames, .colon fields name⟩
  | .colon fields name, frames, .colon => some ⟨.record fields name :: frames, .value⟩
  | .done value, .list items :: frames, .comma => some ⟨.list (items ++ [value]) :: frames, .value⟩
  | .done value, .list items :: frames, .closeList => some ⟨frames, .done (.list (items ++ [value]))⟩
  | .done value, .record fields name :: frames, .comma =>
    some ⟨frames, .name (assign fields name value)⟩
  | .done value, .record fields name :: frames, .closeRecord =>
    some ⟨frames, .done (.record (assign fields name value))⟩
  | _, _, _ => none

def result? (state : State) : Option Value :=
  match state.frames, state.stage with
  | [], .done value => some value
  | _, _ => none

end State

def isSpace (c : Char) : Bool := c == ' ' || c == '\t' || c == '\n' || c == '\r'

theorem length_of_pieces? {written after : Text} {pieces : List Piece}
    (read : pieces? written = some (pieces, after)) : after.length < written.length := by
  fun_induction pieces? written generalizing pieces with
  | case1 => cases read
  | case2 rest =>
    cases read
    exact Nat.lt_succ_self _
  | case3 a b c d rest _ ih =>
    obtain ⟨n, _, later⟩ := Option.bind_eq_some_iff.mp read
    obtain ⟨⟨others, _⟩, found, same⟩ := Option.map_eq_some_iff.mp later
    cases same
    have shorter := ih found
    simp only [List.length_cons]
    omega
  | case4 c rest _ _ ih =>
    obtain ⟨n, _, later⟩ := Option.bind_eq_some_iff.mp read
    obtain ⟨⟨others, _⟩, found, same⟩ := Option.map_eq_some_iff.mp later
    cases same
    have shorter := ih found
    simp only [List.length_cons]
    omega
  | case5 => cases read
  | case6 => cases read
  | case7 c rest _ _ _ ih =>
    obtain ⟨⟨others, _⟩, found, same⟩ := Option.map_eq_some_iff.mp read
    cases same
    exact Nat.lt_succ_of_lt (ih found)

theorem length_of_text? {written text after : Text} (read : text? written = some (text, after)) :
    after.length < written.length := by
  obtain ⟨⟨pieces, rest⟩, found, combined⟩ := Option.bind_eq_some_iff.mp read
  obtain ⟨_, _, same⟩ := Option.bind_eq_some_iff.mp combined
  cases same
  exact length_of_pieces? found

theorem length_of_digits? {written digits after : Text} (read : digits? written = some (digits, after)) :
    after.length < written.length := by
  unfold digits? Text.run at read
  simp only [Option.ite_none_left_eq_some, Option.some.injEq, Prod.mk.injEq] at read
  obtain ⟨some_digit, rfl, rfl⟩ := read
  have whole := congrArg List.length (List.takeWhile_append_dropWhile (p := Char.isDigit) (l := written))
  have positive : 0 < (written.takeWhile Char.isDigit).length := by
    simpa [List.length_pos_iff] using some_digit
  simp only [List.length_append] at whole
  omega

theorem length_of_whole? {written digits after : Text} (read : whole? written = some (digits, after)) :
    after.length < written.length := by
  obtain ⟨⟨_, _⟩, found, kept⟩ := Option.bind_eq_some_iff.mp read
  simp only [Option.ite_none_left_eq_some, Option.some.injEq, Prod.mk.injEq] at kept
  obtain ⟨_, rfl, rfl⟩ := kept
  exact length_of_digits? found

theorem length_of_fraction? {written digits after : Text}
    (read : fraction? written = some (digits, after)) : after.length ≤ written.length := by
  unfold fraction? at read
  split at read
  · have shorter := length_of_digits? read
    simp only [List.length_cons]
    omega
  · cases read
    exact Nat.le_refl _

theorem length_of_power? {written after : Text} {power : Int}
    (read : power? written = some (power, after)) : after.length < written.length := by
  unfold power? at read
  split at read
  all_goals
    obtain ⟨⟨_, _⟩, found, same⟩ := Option.map_eq_some_iff.mp read
    cases same
    exact Nat.lt_of_lt_of_le (length_of_digits? found) (by simp)

theorem length_of_exponent? {written after : Text} {power : Int}
    (read : exponent? written = some (power, after)) : after.length ≤ written.length := by
  unfold exponent? at read
  split at read
  · exact Nat.le_succ_of_le (length_of_power? read).le
  · exact Nat.le_succ_of_le (length_of_power? read).le
  · cases read
    exact Nat.le_refl _

theorem length_of_unsigned? {written after : Text} {number : Number}
    (read : unsigned? written = some (number, after)) : after.length < written.length := by
  obtain ⟨⟨_, _⟩, whole, read⟩ := Option.bind_eq_some_iff.mp read
  obtain ⟨⟨_, _⟩, fraction, read⟩ := Option.bind_eq_some_iff.mp read
  obtain ⟨⟨_, _⟩, exponent, read⟩ := Option.bind_eq_some_iff.mp read
  cases read
  calc
    after.length ≤ _ := length_of_exponent? exponent
    _ ≤ _ := length_of_fraction? fraction
    _ < written.length := length_of_whole? whole

theorem length_of_number? {written after : Text} {number : Number}
    (read : number? written = some (number, after)) : after.length < written.length := by
  unfold number? at read
  split at read
  · obtain ⟨⟨_, _⟩, found, same⟩ := Option.map_eq_some_iff.mp read
    cases same
    exact Nat.lt_succ_of_lt (length_of_unsigned? found)
  · exact length_of_unsigned? read

theorem length_of_word? {word : String} {value : Value} {written after : Text} {token : Token}
    (read : word? word value written = some (token, after)) : after.length ≤ written.length := by
  obtain ⟨rest, found, same⟩ := Option.map_eq_some_iff.mp read
  cases same
  simp only [Text.afterPrefix?, Option.ite_none_right_eq_some, Option.some.injEq] at found
  rw [← found.2, List.length_drop]
  exact Nat.sub_le _ _

theorem length_of_token? {written after : Text} {token : Token}
    (read : token? written = some (token, after)) : after.length < written.length := by
  unfold token? at read
  split at read
  -- a text
  case h_7 =>
    obtain ⟨⟨_, _⟩, found, same⟩ := Option.map_eq_some_iff.mp read
    cases same
    exact Nat.lt_succ_of_lt (length_of_text? found)
  -- the three words
  case h_8 | h_9 | h_10 => exact Nat.lt_succ_of_le (length_of_word? read)
  -- a number
  case h_11 =>
    obtain ⟨⟨_, _⟩, found, same⟩ := Option.map_eq_some_iff.mp read
    cases same
    exact length_of_number? found
  -- single characters
  all_goals
    cases read
    exact Nat.lt_succ_self _

/-- Reads on from a state to the end of the text. -/
def readFrom? (state : State) (written : Text) : Option Value :=
  match written with
  | [] => state.result?
  | c :: rest =>
    if isSpace c then readFrom? state rest
    else match _ : token? (c :: rest) with
      | none => none
      | some (token, after) => (state.step? token).bind fun next => readFrom? next after
termination_by written.length
decreasing_by
  · exact Nat.lt_succ_self _
  · rename_i found
    exact length_of_token? found

/-- The value that a text writes, if it is JSON. -/
def read? (written : Text) : Option Value := readFrom? ⟨[], .value⟩ written

@[simp] theorem readFrom?_nil (state : State) : readFrom? state [] = state.result? := by
  rw [readFrom?]

theorem readFrom?_space {c : Char} (space : isSpace c = true) (state : State) (rest : Text) :
    readFrom? state (c :: rest) = readFrom? state rest := by
  rw [readFrom?, if_pos space]

theorem isSpace_of_token? {c : Char} {rest after : Text} {token : Token}
    (found : token? (c :: rest) = some (token, after)) : isSpace c = false := by
  by_contra space
  rw [Bool.not_eq_false] at space
  simp only [isSpace, Bool.or_eq_true, beq_iff_eq] at space
  rcases space with ((rfl | rfl) | rfl) | rfl <;> cases found

theorem readFrom?_token {written after : Text} {token : Token}
    (found : token? written = some (token, after)) (state : State) :
    readFrom? state written = (state.step? token).bind fun next => readFrom? next after := by
  cases written with
  | nil => cases found
  | cons c rest =>
    rw [readFrom?, if_neg (by simp [isSpace_of_token? found])]
    split
    · rename_i absent
      rw [found] at absent
      cases absent
    · rename_i other otherAfter same
      rw [found] at same
      cases same
      rfl

end RouteReport.Document.Json
