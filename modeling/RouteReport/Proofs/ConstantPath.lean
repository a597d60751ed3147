import RouteReport.Naming.Constant
import RouteReport.Proofs.TextLaws

namespace RouteReport

theorem scopeSegments_ne_nil (text : Text) : scopeSegments text ≠ [] := by
  fun_cases scopeSegments text <;> simp_all

theorem join_scopeSegments (text : Text) : Text.join scopeMark (scopeSegments text) = text := by
  fun_induction scopeSegments text with
  | case1 => rfl
  | case2 rest ih =>
    rcases List.exists_cons_of_ne_nil (scopeSegments_ne_nil rest) with ⟨piece, pieces, shape⟩
    rw [shape] at ih ⊢
    simpa [Text.join, scopeMark] using ih
  | case3 c rest _ piece pieces shape ih =>
    rw [shape] at ih
    cases pieces with
    | nil => simpa [Text.join] using ih
    | cons next others => simpa [Text.join] using ih
  | case4 c rest _ shape ih => exact absurd shape (scopeSegments_ne_nil rest)

theorem scopeSegments_of_not_mem {text : Text} (noColon : ':' ∉ text) : scopeSegments text = [text] := by
  induction text with
  | nil => rfl
  | cons c rest ih =>
    have parts : ':' ≠ c ∧ ':' ∉ rest := by simpa using noColon
    rw [scopeSegments, ih parts.2]
    exact fun _ same _ => parts.1 same.symm

theorem scopeSegments_append {piece : Text} (noColon : ':' ∉ piece) (rest : Text) :
    scopeSegments (piece ++ (scopeMark ++ rest)) = piece :: scopeSegments rest := by
  induction piece with
  | nil => rfl
  | cons c others ih =>
    have parts : ':' ≠ c ∧ ':' ∉ others := by simpa using noColon
    rw [List.cons_append, scopeSegments, ih parts.2]
    exact fun _ same _ => parts.1 same.symm

theorem head?_of_scopeSegments {text piece : Text} {c : Char} {pieces : List Text}
    (shape : scopeSegments text = (c :: piece) :: pieces) : text.head? = some c := by
  rw [← join_scopeSegments text, shape]
  cases pieces <;> rfl

theorem isConstantSegment_cons (c : Char) (rest : Text) :
    isConstantSegment (c :: rest) = true ↔
      Text.isAsciiUpper c = true ∧ ∀ x ∈ rest, Text.isWord x = true := by
  simp [isConstantSegment]

theorem isWord_of_isAsciiUpper {c : Char} (upper : Text.isAsciiUpper c = true) :
    Text.isWord c = true := by
  have bounds := Text.toNat_of_isAsciiUpper upper
  have small : c.toNat < 128 := by omega
  simp [Text.isWord, small, Text.isAsciiLetter, upper]

def wideBlanks : Text.Ranges :=
  [(0x85, 0x85), (0xa0, 0xa0), (0x1680, 0x1680), (0x2000, 0x200a), (0x2028, 0x2029),
    (0x202f, 0x202f), (0x205f, 0x205f), (0x3000, 0x3000)]

theorem contains_wideBlanks {c : Char} (wide : ¬ c.toNat < 128) (blank : Text.isBlank c = true) :
    wideBlanks.contains c = true := by
  simp only [Text.isBlank, Bool.or_eq_true, Bool.and_eq_true, decide_eq_true_eq, beq_iff_eq] at blank
  simp only [Text.Ranges.contains, wideBlanks, List.any_cons, List.any_nil, Bool.or_eq_true,
    Bool.and_eq_true, decide_eq_true_eq]
  omega

theorem wideBlanks_apart : ∀ letters ∈ Text.letterOrNumberRanges, ∀ blanks ∈ wideBlanks,
    letters.2 < blanks.1 ∨ blanks.2 < letters.1 := by
  decide +kernel

theorem isBlank_of_isWord {c : Char} (word : Text.isWord c = true) : Text.isBlank c = false := by
  by_cases ascii : c.toNat < 128
  · have low : 48 ≤ c.toNat := by
      simp only [Text.isWord, ascii, ↓reduceIte, Text.isAsciiLetter, Text.isAsciiLower,
        Text.isAsciiDigit, Bool.or_eq_true, Bool.and_eq_true, decide_eq_true_eq, beq_iff_eq] at word
      rcases word with ((lower | upper) | digit) | rfl
      · have bound : 97 ≤ c.toNat := lower.1
        omega
      · have bounds := Text.toNat_of_isAsciiUpper upper
        omega
      · exact digit.1
      · decide
    exact Text.isBlank_of_printable (by omega) ascii
  · rw [Text.isWord, if_neg ascii] at word
    rw [Bool.eq_false_iff]
    intro blank
    obtain ⟨letters, listed, inLetters⟩ := List.any_eq_true.mp word
    obtain ⟨blanks, spaces, inBlanks⟩ := List.any_eq_true.mp (contains_wideBlanks ascii blank)
    simp only [Bool.and_eq_true, decide_eq_true_eq] at inLetters inBlanks
    have apart := wideBlanks_apart letters listed blanks spaces
    omega

theorem isWord_of_mem_segment {segment : Text} (valid : isConstantSegment segment = true) {c : Char}
    (present : c ∈ segment) : Text.isWord c = true := by
  cases segment with
  | nil => cases present
  | cons first rest =>
    rcases (isConstantSegment_cons first rest).mp valid with ⟨upper, word⟩
    rcases List.mem_cons.mp present with rfl | later
    · exact isWord_of_isAsciiUpper upper
    · exact word c later

theorem colon_not_word : Text.isWord ':' = false := by decide

theorem colon_not_mem_segment {segment : Text} (valid : isConstantSegment segment = true) :
    ':' ∉ segment := by
  intro present
  have word := isWord_of_mem_segment valid present
  rw [colon_not_word] at word
  cases word

theorem no_symbol_of_segments {next : Char} (noColon : next ≠ ':')
    (noCapital : Text.isAsciiUpper next = false) (text : Text)
    (word : ∀ piece, (scopeSegments text).head? = some piece → ∀ c ∈ piece, Text.isWord c = true)
    (later : ∀ piece ∈ (scopeSegments text).tail, isConstantSegment piece = true) :
    ¬ [':', next] <:+: text := by
  fun_induction scopeSegments text with
  | case1 => simp
  | case2 rest ih =>
    rcases List.exists_cons_of_ne_nil (scopeSegments_ne_nil rest) with ⟨piece, pieces, shape⟩
    have valid : ∀ segment ∈ piece :: pieces, isConstantSegment segment = true := by
      intro segment member
      exact later segment (by simpa [shape] using member)
    have inRest : ¬ [':', next] <:+: rest := by
      apply ih
      · intro first head c present
        have same : first = piece := by simpa [shape, eq_comm] using head
        subst first
        exact isWord_of_mem_segment (valid piece List.mem_cons_self) present
      · intro segment member
        exact valid segment (List.mem_cons_of_mem _ (by simpa [shape] using member))
    have atMark : ¬ [':', next] <+: ':' :: rest := by
      intro starts
      have head : rest.head? = some next := by
        rcases starts with ⟨tail, eq⟩
        have same : next :: tail = rest := by simpa using eq
        rw [← same]
        rfl
      cases piece with
      | nil => exact absurd (valid [] List.mem_cons_self) (by decide)
      | cons c others =>
        have first := head?_of_scopeSegments shape
        have upper := ((isConstantSegment_cons c others).mp (valid _ List.mem_cons_self)).1
        have same : c = next := Option.some.inj (first.symm.trans head)
        rw [same, noCapital] at upper
        cases upper
    simp only [List.infix_cons_iff, not_or]
    refine ⟨?_, atMark, inRest⟩
    simp [List.cons_prefix_cons, noColon]
  | case3 c rest _ piece pieces shape ih =>
    have wordPiece : ∀ x ∈ c :: piece, Text.isWord x = true := word _ rfl
    have inRest : ¬ [':', next] <:+: rest := by
      apply ih
      · intro first head x present
        have same : first = piece := by simpa [shape, eq_comm] using head
        subst first
        exact wordPiece x (List.mem_cons_of_mem _ present)
      · intro segment member
        exact later segment (by simpa [shape] using member)
    simp only [List.infix_cons_iff, not_or]
    refine ⟨?_, inRest⟩
    intro starts
    have same : ':' = c := (List.cons_prefix_cons.mp starts).1
    have isWord := wordPiece c List.mem_cons_self
    rw [← same, colon_not_word] at isWord
    cases isWord
  | case4 c rest _ shape ih => exact absurd shape (scopeSegments_ne_nil rest)

theorem isConstantPath_iff_segments {text : Text} (relative : ¬ scopeMark <+: text) :
    isConstantPath text = true ↔ ∀ segment ∈ scopeSegments text, isConstantSegment segment = true := by
  simp [isConstantPath, Text.afterPrefix?_eq_none relative]

theorem isConstantName_eq {text : Text} (oneLine : '\n' ∉ text) :
    isConstantName text = isConstantPath text := by
  have noEnd : Text.beforeSuffix? text ['\n'] = none := by
    have other : ¬ ['\n'] <:+ text := fun ends => oneLine (ends.subset List.mem_cons_self)
    simpa [Text.beforeSuffix?] using other
  rw [isConstantName, noEnd, Option.getD_none]

section Path

variable {path : Text} (relative : ¬ scopeMark <+: path) (valid : isConstantPath path = true)

include relative valid

theorem words_of_isConstantPath :
    (∀ piece, (scopeSegments path).head? = some piece → ∀ c ∈ piece, Text.isWord c = true) ∧
      ∀ piece ∈ (scopeSegments path).tail, isConstantSegment piece = true := by
  have segments := (isConstantPath_iff_segments relative).mp valid
  constructor
  · intro piece head c present
    exact isWord_of_mem_segment (segments piece (List.mem_of_head? head)) present
  · intro piece member
    exact segments piece (List.mem_of_mem_tail member)

theorem no_symbol_of_isConstantPath {next : Char} (noColon : next ≠ ':')
    (noCapital : Text.isAsciiUpper next = false) : ¬ [':', next] <:+: path := by
  obtain ⟨word, later⟩ := words_of_isConstantPath relative valid
  exact no_symbol_of_segments noColon noCapital path word later

omit relative in
theorem colon_or_word_of_isConstantPath {c : Char} (present : c ∈ path) :
    c = ':' ∨ Text.isWord c = true := by
  have inSegments : ∀ text : Text, (scopeSegments text).all isConstantSegment = true → c ∈ text →
      c = ':' ∨ Text.isWord c = true := by
    intro text segments inText
    rw [← join_scopeSegments text] at inText
    rcases Text.mem_join inText with inMark | ⟨segment, member, inSegment⟩
    · exact .inl (by simpa [scopeMark] using inMark)
    · exact .inr (isWord_of_mem_segment (List.all_eq_true.mp segments segment member) inSegment)
  by_cases marked : scopeMark <+: path
  · obtain ⟨rest, rfl⟩ := marked
    rw [isConstantPath, Text.afterPrefix?_append, Option.getD_some] at valid
    rcases List.mem_append.mp present with inMark | inRest
    · exact .inl (by simpa [scopeMark] using inMark)
    · exact inSegments rest valid inRest
  · rw [isConstantPath, Text.afterPrefix?_eq_none marked, Option.getD_none] at valid
    exact inSegments path valid present

omit relative in
theorem printable_path {c : Char} (present : c ∈ path) : Text.isBlank c = false := by
  rcases colon_or_word_of_isConstantPath valid present with rfl | word
  · decide
  · exact isBlank_of_isWord word

omit relative in
theorem not_mem_path {c : Char} (notColon : c ≠ ':') (notWord : Text.isWord c = false) : c ∉ path := by
  intro present
  rcases colon_or_word_of_isConstantPath valid present with colon | word
  · exact notColon colon
  · rw [notWord] at word
    cases word

theorem head_of_isConstantPath : ∃ c rest, path = c :: rest ∧ Text.isAsciiUpper c = true := by
  have segments := (isConstantPath_iff_segments relative).mp valid
  rcases List.exists_cons_of_ne_nil (scopeSegments_ne_nil path) with ⟨piece, pieces, shape⟩
  have first := segments piece (by simp [shape])
  cases piece with
  | nil => cases first
  | cons c others =>
    refine ⟨c, path.tail, ?_, ((isConstantSegment_cons c others).mp first).1⟩
    exact (List.cons_head?_tail (head?_of_scopeSegments shape)).symm

omit relative in
theorem isConstantName_of_isConstantPath (oneLine : '\n' ∉ path) : isConstantName path = true := by
  rw [isConstantName_eq oneLine]
  exact valid

end Path

end RouteReport
