import RouteReport.Document.Json
import RouteReport.Proofs.Document.JsonReading

namespace RouteReport.Document.Json

theorem hexValue?_hexDigit (n : Nat) : hexValue? (Text.hexDigit n) = some (n % 16) := by
  have all : ∀ d < 16, hexValue? (Nat.digitChar d) = some d := by decide
  exact all (n % 16) (Nat.mod_lt n (by decide))

theorem unit?_hex {n : Nat} (fits : n < 0x10000) :
    ∃ a b c d, Text.hex 4 n = [a, b, c, d] ∧ unit? a b c d = some n := by
  refine ⟨Text.hexDigit (n / 16 / 16 / 16), Text.hexDigit (n / 16 / 16), Text.hexDigit (n / 16),
    Text.hexDigit n, rfl, ?_⟩
  simp only [unit?, hexValue?_hexDigit, Option.pure_def, Option.bind_eq_bind, Option.bind_some,
    Option.some.injEq]
  omega

structure Spells (written : Text) (pieces : List Piece) (c : Char) : Prop where
  read : ∀ rest, pieces? (written ++ rest) = (pieces? rest).map fun (more, after) => (pieces ++ more, after)
  combine : ∀ more, combine? (pieces ++ more) = (combine? more).map (c :: ·)

theorem combine?_char (c : Char) (more : List Piece) :
    combine? (.char c :: more) = (combine? more).map (c :: ·) := rfl

theorem spells_short {escape c : Char} (found : shortEscape? escape = some c) :
    Spells ['\\', escape] [.char c] c where
  read := by
    intro rest
    have noUnit : escape ≠ 'u' := by
      rintro rfl
      cases found
    simp [pieces?, found, noUnit]
  combine := combine?_char c

theorem spells_plain {c : Char} (noQuote : c ≠ '"') (noEscape : c ≠ '\\') (solid : 32 ≤ c.toNat) :
    Spells [c] [.char c] c where
  read := by
    intro rest
    rw [List.singleton_append, pieces?.eq_def]
    simp [noQuote, noEscape, Nat.not_lt.mpr solid]
  combine := combine?_char c

theorem pieces?_unit {n : Nat} (fits : n < 0x10000) (rest : Text) :
    pieces? ('\\' :: 'u' :: Text.hex 4 n ++ rest) =
      (pieces? rest).map fun (more, after) => (.unit n :: more, after) := by
  obtain ⟨a, b, c, d, digits, value⟩ := unit?_hex fits
  rw [digits]
  simp [pieces?, value]

theorem toNat_range (c : Char) : c.toNat < 0xd800 ∨ 0xdfff < c.toNat ∧ c.toNat < 0x110000 := c.valid

theorem spells_unit {c : Char} (fits : c.toNat < 0x10000) :
    Spells ('\\' :: 'u' :: Text.hex 4 c.toNat) [.unit c.toNat] c where
  read := pieces?_unit fits
  combine := by
    intro more
    have range := toNat_range c
    have noHigh : isHighUnit c.toNat = false := by
      simp only [isHighUnit, Bool.and_eq_false_iff, decide_eq_false_iff_not]
      omega
    have noLow : isLowUnit c.toNat = false := by
      simp only [isLowUnit, Bool.and_eq_false_iff, decide_eq_false_iff_not]
      omega
    rw [List.singleton_append, combine?.eq_def]
    simp [noHigh, noLow, Char.ofNat_toNat]

theorem spells_units {c : Char} (wide : 0x10000 ≤ c.toNat) :
    Spells (unitEscapes c.toNat)
      [.unit (0xd800 + (c.toNat - 0x10000) / 0x400), .unit (0xdc00 + (c.toNat - 0x10000) % 0x400)] c where
  read := by
    intro rest
    have range := toNat_range c
    have written : unitEscapes c.toNat ++ rest =
        '\\' :: 'u' :: Text.hex 4 (0xd800 + (c.toNat - 0x10000) / 0x400) ++
          ('\\' :: 'u' :: Text.hex 4 (0xdc00 + (c.toNat - 0x10000) % 0x400) ++ rest) := by
      simp [unitEscapes, Nat.not_lt.mpr wide]
    rw [written, pieces?_unit (by omega), pieces?_unit (by omega), Option.map_map]
    rfl
  combine := by
    intro more
    have range := toNat_range c
    have isHigh : isHighUnit (0xd800 + (c.toNat - 0x10000) / 0x400) = true := by
      simp only [isHighUnit, Bool.and_eq_true, decide_eq_true_eq]
      omega
    have isLow : isLowUnit (0xdc00 + (c.toNat - 0x10000) % 0x400) = true := by
      simp only [isLowUnit, Bool.and_eq_true, decide_eq_true_eq]
      omega
    have number : 0x10000 + (0xd800 + (c.toNat - 0x10000) / 0x400 - 0xd800) * 0x400 +
        (0xdc00 + (c.toNat - 0x10000) % 0x400 - 0xdc00) = c.toNat := by omega
    rw [List.cons_append, List.singleton_append, combine?.eq_def]
    simp only [isHigh, isLow, ↓reduceIte, number, Char.ofNat_toNat]

theorem exists_spells (c : Char) : ∃ pieces, Spells (encodeChar c) pieces c := by
  unfold encodeChar
  split_ifs with quote escape feed carriage tab page back plain
  · rw [eq_of_beq quote]
    exact ⟨_, spells_short rfl⟩
  · rw [eq_of_beq escape]
    exact ⟨_, spells_short rfl⟩
  · rw [eq_of_beq feed]
    exact ⟨_, spells_short rfl⟩
  · rw [eq_of_beq carriage]
    exact ⟨_, spells_short rfl⟩
  · rw [eq_of_beq tab]
    exact ⟨_, spells_short rfl⟩
  · rw [eq_of_beq page]
    exact ⟨_, spells_short rfl⟩
  · rw [eq_of_beq back]
    exact ⟨_, spells_short rfl⟩
  · simp only [Bool.and_eq_true, decide_eq_true_eq] at plain
    exact ⟨_, spells_plain (by simpa using quote) (by simpa using escape) plain.1⟩
  · by_cases fits : c.toNat < 0x10000
    · rw [unitEscapes, if_pos fits]
      exact ⟨_, spells_unit fits⟩
    · exact ⟨_, spells_units (Nat.not_lt.mp fits)⟩

theorem exists_pieces (written rest : Text) :
    ∃ pieces, pieces? (written.flatMap encodeChar ++ '"' :: rest) = some (pieces, rest) ∧
      combine? pieces = some written := by
  induction written with
  | nil =>
    refine ⟨[], ?_, rfl⟩
    rw [List.flatMap_nil, List.nil_append, pieces?.eq_def]
    rfl
  | cons c others ih =>
    obtain ⟨first, spells⟩ := exists_spells c
    obtain ⟨pieces, read, combined⟩ := ih
    refine ⟨first ++ pieces, ?_, ?_⟩
    · rw [List.flatMap_cons, List.append_assoc, spells.read, read]
      rfl
    · rw [spells.combine, combined]
      rfl

theorem token?_text (written rest : Text) :
    token? (encodeText written ++ rest) = some (.value (.text written), rest) := by
  obtain ⟨pieces, read, combined⟩ := exists_pieces written rest
  have shape : encodeText written ++ rest = '"' :: (written.flatMap encodeChar ++ '"' :: rest) := by
    simp [encodeText]
  rw [shape]
  simp [token?, text?, read, combined]

def Delimited (rest : Text) : Prop :=
  ∀ c, rest.head? = some c → c.isDigit = false ∧ c ≠ '.' ∧ c ≠ 'e' ∧ c ≠ 'E'

theorem ofNat_of_zero {n : Nat} (zero : (Text.ofNat n).head? = some '0') : Text.ofNat n = ['0'] := by
  induction n using Nat.strong_induction_on with
  | _ n ih =>
    by_cases small : n < 10
    · rw [Text.ofNat, Nat.toDigits_of_lt_base small] at zero ⊢
      rw [Option.some.inj zero]
    · have smaller : n / 10 < n := Nat.div_lt_self (by omega) (by decide)
      have whole : Text.ofNat n = Text.ofNat (n / 10) ++ [(n % 10).digitChar] :=
        Nat.toDigits_of_base_le (by decide) (Nat.not_lt.mp small)
      have front : (Text.ofNat (n / 10)).head? = some '0' := by
        have someDigit : Text.ofNat (n / 10) ≠ [] := Nat.toDigits_ne_nil
        rwa [whole, List.head?_append_of_ne_nil _ someDigit] at zero
      have single := ih (n / 10) smaller front
      have value : Nat.ofDigitChars 10 (Text.ofNat (n / 10)) 0 = n / 10 :=
        Nat.ofDigitChars_toDigits (by decide) (by decide)
      have none : Nat.ofDigitChars 10 ['0'] 0 = 0 := rfl
      rw [single, none] at value
      omega

theorem ofNat_eq_cons (n : Nat) : ∃ c rest, Text.ofNat n = c :: rest ∧ c.isDigit = true := by
  have someDigit : Text.ofNat n ≠ [] := Nat.toDigits_ne_nil
  obtain ⟨c, rest, shape⟩ := List.exists_cons_of_ne_nil someDigit
  exact ⟨c, rest, shape, Text.isDigit_of_mem_ofNat (shape ▸ List.mem_cons_self)⟩

theorem digits?_ofNat (n : Nat) {rest : Text} (ends : Delimited rest) :
    digits? (Text.ofNat n ++ rest) = some (Text.ofNat n, rest) := by
  have run : Text.run (Text.ofNat n ++ rest) Char.isDigit = (Text.ofNat n, rest) :=
    Text.run_append Char.isDigit _ _
      (fun _ present => Text.isDigit_of_mem_ofNat present)
      (fun c first => (ends c first).1)
  rw [digits?, run]
  simp [Text.ofNat, Nat.toDigits_ne_nil]

theorem unsigned?_ofNat (n : Nat) {rest : Text} (ends : Delimited rest) :
    unsigned? (Text.ofNat n ++ rest) = some (⟨n, 0⟩, rest) := by
  have whole : whole? (Text.ofNat n ++ rest) = some (Text.ofNat n, rest) := by
    rw [whole?, digits?_ofNat n ends]
    simpa using ofNat_of_zero
  have fraction : fraction? rest = some ([], rest) := by
    unfold fraction?
    split
    · exact absurd rfl (ends '.' rfl).2.1
    · rfl
  have exponent : exponent? rest = some (0, rest) := by
    unfold exponent?
    split
    · exact absurd rfl (ends 'e' rfl).2.2.1
    · exact absurd rfl (ends 'E' rfl).2.2.2
    · rfl
  have value : numeral (Text.ofNat n) = n :=
    congrArg Int.ofNat (Nat.ofDigitChars_toDigits (by decide) (by decide))
  simp [unsigned?, whole, fraction, exponent, value]

theorem number?_ofInt (value : Int) {rest : Text} (ends : Delimited rest) :
    number? (ofInt value ++ rest) = some (⟨value, 0⟩, rest) := by
  unfold ofInt
  split
  · rename_i negative
    have sign : -(value.natAbs : Int) = value := by omega
    simp only [List.cons_append, number?, unsigned?_ofNat value.natAbs ends, Option.map_some, sign]
  · rename_i positive
    have sign : (value.natAbs : Int) = value := by omega
    rw [number?, unsigned?_ofNat value.natAbs ends, sign]
    -- the first character is a digit and no sign
    intro others shape
    obtain ⟨digit, digits, spelled, isDigit⟩ := ofNat_eq_cons value.natAbs
    rw [spelled] at shape
    rw [(List.cons.inj shape).1] at isDigit
    cases isDigit

theorem token?_number {written after : Text} {number : Number}
    (found : number? written = some (number, after)) :
    token? written = some (.value (.number number), after) := by
  unfold token?
  split
  case h_11 => rw [found]; rfl
  all_goals cases found

end RouteReport.Document.Json
