import RouteReport.Text.Utf8

namespace RouteReport.Utf8

def payload (start : Nat) (octets : Octets) : Nat :=
  octets.foldl (fun n octet => n * 64 + octet.toNat % 64) start

theorem toNat_toUInt8 {n : Nat} (small : n < 256) : n.toUInt8.toNat = n := by
  rw [Nat.toUInt8_eq, UInt8.toNat_ofNat']
  omega

def Continues (more : Octets) (least greatest : Nat) : Prop :=
  ∀ rest, continuation more.length least greatest (more ++ rest) = more

theorem decodeFrom_append {octet : UInt8} {more : Octets} {least greatest : Nat} {c : Char}
    (lead : lead? octet = some (more.length, least, greatest)) (within : Continues more least greatest)
    (code : payload (leadBits more.length octet) more = c.toNat) (position : Nat) (rest : Octets) :
    decodeFrom position (octet :: more ++ rest) =
      (decodeFrom (position + (octet :: more).length) rest).map (c :: ·) := by
  rw [payload] at code
  have taken := within rest
  rw [List.cons_append, decodeFrom]
  simp only [lead, taken, Nat.lt_irrefl, ↓reduceIte, code, Char.ofNat_toNat, List.drop_left,
    List.length_cons, Nat.add_assoc, Nat.add_comm 1]

theorem continuation_cons {octet : UInt8} {least greatest n : Nat} (number : octet.toNat = n)
    (inRange : least ≤ n ∧ n ≤ greatest) (count : Nat) (rest : Octets) :
    continuation (count + 1) least greatest (octet :: rest) =
      octet :: continuation count 0x80 0xbf rest := by
  simp [continuation, number, inRange]

theorem toNat_continuation (n : Nat) : (0x80 + n % 64).toUInt8.toNat = 0x80 + n % 64 :=
  toNat_toUInt8 (by omega)

theorem payload_nil (start : Nat) : payload start [] = start := rfl

theorem payload_cons (start n : Nat) (more : Octets) :
    payload start ((0x80 + n % 64).toUInt8 :: more) = payload (start * 64 + n % 64) more := by
  have bits : (0x80 + n % 64) % 64 = n % 64 := by omega
  rw [payload, List.foldl_cons, toNat_continuation, bits, payload]

theorem continues_nil (least greatest : Nat) : Continues [] least greatest := by
  intro rest
  cases rest <;> rfl

theorem continues_cons {least greatest n : Nat} {more : Octets}
    (inRange : least ≤ 0x80 + n % 64 ∧ 0x80 + n % 64 ≤ greatest) (later : Continues more 0x80 0xbf) :
    Continues ((0x80 + n % 64).toUInt8 :: more) least greatest := by
  intro rest
  rw [List.length_cons, List.cons_append, continuation_cons (toNat_continuation n) inRange, later]

section Lead

variable {n : Nat}

theorem lead?_of_two (low : 0x80 ≤ n) (high : n < 0x800) :
    lead? (0xc0 + n / 64).toUInt8 = some (1, 0x80, 0xbf) := by
  have first : (0xc0 + n / 64).toUInt8.toNat = 0xc0 + n / 64 := toNat_toUInt8 (by omega)
  have notOne : ¬ 0xc0 + n / 64 < 0x80 := by omega
  have notLonger : ¬ 0xc0 + n / 64 < 0xc2 := by omega
  have two : 0xc0 + n / 64 < 0xe0 := by omega
  simp only [lead?, first, notOne, notLonger, two, ↓reduceIte]

theorem lead?_of_three (low : 0x800 ≤ n) (high : n < 0x10000) (scalar : n < 0xd800 ∨ 0xdfff < n) :
    ∃ least greatest, lead? (0xe0 + n / 4096).toUInt8 = some (2, least, greatest) ∧
      least ≤ 0x80 + n / 64 % 64 ∧ 0x80 + n / 64 % 64 ≤ greatest := by
  have first : (0xe0 + n / 4096).toUInt8.toNat = 0xe0 + n / 4096 := toNat_toUInt8 (by omega)
  have notOne : ¬ 0xe0 + n / 4096 < 0x80 := by omega
  have notStray : ¬ 0xe0 + n / 4096 < 0xc2 := by omega
  have notTwo : ¬ 0xe0 + n / 4096 < 0xe0 := by omega
  have three : 0xe0 + n / 4096 < 0xf0 := by omega
  simp only [lead?, first, beq_iff_eq, notOne, notStray, notTwo, three, ↓reduceIte]
  by_cases shortest : 0xe0 + n / 4096 = 0xe0
  · exact ⟨0xa0, 0xbf, if_pos shortest, by omega, by omega⟩
  · by_cases nearSurrogates : 0xe0 + n / 4096 = 0xed
    · exact ⟨0x80, 0x9f, by rw [if_neg shortest, if_pos nearSurrogates], by omega, by omega⟩
    · exact ⟨0x80, 0xbf, by rw [if_neg shortest, if_neg nearSurrogates], by omega, by omega⟩

theorem lead?_of_four (low : 0x10000 ≤ n) (high : n < 0x110000) :
    ∃ least greatest, lead? (0xf0 + n / 262144).toUInt8 = some (3, least, greatest) ∧
      least ≤ 0x80 + n / 4096 % 64 ∧ 0x80 + n / 4096 % 64 ≤ greatest := by
  have first : (0xf0 + n / 262144).toUInt8.toNat = 0xf0 + n / 262144 := toNat_toUInt8 (by omega)
  have notOne : ¬ 0xf0 + n / 262144 < 0x80 := by omega
  have notStray : ¬ 0xf0 + n / 262144 < 0xc2 := by omega
  have notTwo : ¬ 0xf0 + n / 262144 < 0xe0 := by omega
  have notThree : ¬ 0xf0 + n / 262144 < 0xf0 ∧ 0xf0 + n / 262144 ≠ 0xe0 ∧ 0xf0 + n / 262144 ≠ 0xed := by
    omega
  simp only [lead?, first, beq_iff_eq, notOne, notStray, notTwo, notThree, ↓reduceIte]
  by_cases shortest : 0xf0 + n / 262144 = 0xf0
  · exact ⟨0x90, 0xbf, if_pos shortest, by omega, by omega⟩
  · by_cases last : 0xf0 + n / 262144 = 0xf4
    · have notInner : ¬ 0xf0 + n / 262144 < 0xf4 := by omega
      exact ⟨0x80, 0x8f, by rw [if_neg shortest, if_neg notInner, if_pos last], by omega, by omega⟩
    · have inner : 0xf0 + n / 262144 < 0xf4 := by omega
      exact ⟨0x80, 0xbf, by rw [if_neg shortest, if_pos inner], by omega, by omega⟩

end Lead

theorem decodeFrom_encodeChar (c : Char) (position : Nat) (rest : Octets) :
    decodeFrom position (encodeChar c ++ rest) =
      (decodeFrom (position + (encodeChar c).length) rest).map (c :: ·) := by
  have valid : c.toNat < 0xd800 ∨ 0xdfff < c.toNat ∧ c.toNat < 0x110000 := c.valid
  have tail (n : Nat) : 0x80 ≤ 0x80 + n % 64 ∧ 0x80 + n % 64 ≤ 0xbf := by omega
  have last : Continues [(0x80 + c.toNat % 64).toUInt8] 0x80 0xbf :=
    continues_cons (tail c.toNat) (continues_nil 0x80 0xbf)
  have lastTwo : Continues [(0x80 + c.toNat / 64 % 64).toUInt8, (0x80 + c.toNat % 64).toUInt8] 0x80 0xbf :=
    continues_cons (tail (c.toNat / 64)) last
  unfold encodeChar
  by_cases one : c.toNat < 0x80
  · have number : c.toNat.toUInt8.toNat = c.toNat := toNat_toUInt8 (by omega)
    have lead : lead? c.toNat.toUInt8 = some (0, 0, 0) := by simp only [lead?, number, one, ↓reduceIte]
    simp only [one, ↓reduceIte]
    exact decodeFrom_append lead (continues_nil 0 0) number position rest
  by_cases two : c.toNat < 0x800
  · have number : (0xc0 + c.toNat / 64).toUInt8.toNat = 0xc0 + c.toNat / 64 := toNat_toUInt8 (by omega)
    simp only [one, two, ↓reduceIte]
    apply decodeFrom_append (lead?_of_two (by omega) two) last
    simp only [payload_cons, payload_nil, leadBits, List.length_cons, List.length_nil, number]
    omega
  by_cases three : c.toNat < 0x10000
  · have number : (0xe0 + c.toNat / 4096).toUInt8.toNat = 0xe0 + c.toNat / 4096 := toNat_toUInt8 (by omega)
    rcases lead?_of_three (by omega) three (by omega) with ⟨least, greatest, lead, inRange⟩
    simp only [one, two, three, ↓reduceIte]
    apply decodeFrom_append lead (continues_cons inRange last)
    simp only [payload_cons, payload_nil, leadBits, List.length_cons, List.length_nil, number]
    omega
  · have number : (0xf0 + c.toNat / 262144).toUInt8.toNat = 0xf0 + c.toNat / 262144 :=
      toNat_toUInt8 (by omega)
    have low : 0x10000 ≤ c.toNat := by omega
    rcases lead?_of_four low (by omega) with ⟨least, greatest, lead, inRange⟩
    simp only [one, two, three, ↓reduceIte]
    apply decodeFrom_append lead (continues_cons inRange lastTwo)
    simp only [payload_cons, payload_nil, leadBits, List.length_cons, List.length_nil, number]
    omega

theorem decodeFrom_encode (position : Nat) (text : Text) : decodeFrom position (encode text) = .ok text := by
  induction text generalizing position with
  | nil => rw [encode, List.flatMap_nil, decodeFrom]
  | cons c rest ih =>
    rw [encode, List.flatMap_cons, decodeFrom_encodeChar, ← encode, ih]
    rfl

theorem decode_encode (text : Text) : decode (encode text) = .ok text := decodeFrom_encode 0 text

end RouteReport.Utf8
