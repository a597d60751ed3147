import RouteReport.Proofs.Naming.Capitals
import RouteReport.Proofs.Naming.Conversion

/-! Names of controllers that their class names give back. In class notation a capital stands where a
word begins and nowhere else, so the words come apart again, and a digit at the end of one keeps its
place. -/

namespace RouteReport

/-- A small letter, then one or more small letters or digits. -/
def isPlainWord : Text → Bool
  | c :: d :: rest =>
    Text.isAsciiLower c && (d :: rest).all fun x => Text.isAsciiLower x || Text.isAsciiDigit x
  | _ => false

/-- Segments of words, such as `admin/user_sessions`. -/
def IsCanonicalName (name : Text) : Prop :=
  ∀ segment ∈ name.splitOn '/', ∀ word ∈ Text.splitOn segment '_', isPlainWord word = true

instance (name : Text) : Decidable (IsCanonicalName name) :=
  List.decidableBAll (fun segment : Text => ∀ word ∈ segment.splitOn '_', isPlainWord word = true) _

def snakeOf (camel : Text) : Text := (separated camel).map Text.lowerAscii

def resumed (camel : Text) : Text :=
  if camel.head?.any Text.isAsciiUpper then '_' :: snakeOf camel else snakeOf camel

structure IsInner (c : Char) : Prop where
  ascii : c.toNat < 128
  small : Text.isAsciiUpper c = false
  before_capital : (Text.isAsciiLower c || Text.isDigit c) = true
  same : Text.lowerAscii c = c
  word : Text.isWord c = true

theorem isInner_of_smallOrDigit {c : Char}
    (member : (Text.isAsciiLower c || Text.isAsciiDigit c) = true) : IsInner c := by
  have ascii : c.toNat < 128 := by
    rcases Bool.or_eq_true_iff.mp member with lower | digit
    · have bounds := Text.toNat_of_isAsciiLower lower
      omega
    · simp only [Text.isAsciiDigit, Bool.and_eq_true, decide_eq_true_eq] at digit
      have high : c.toNat ≤ 57 := digit.2
      omega
  obtain ⟨small, before, same, word⟩ := Text.forall_ascii
    (fun c => (Text.isAsciiLower c || Text.isAsciiDigit c) = true → Text.isAsciiUpper c = false ∧
      (Text.isAsciiLower c || Text.isDigit c) = true ∧ Text.lowerAscii c = c ∧ Text.isWord c = true)
    (by decide) ascii member
  exact ⟨ascii, small, before, same, word⟩

theorem inner_of_plainWord {word : Text} (plain : isPlainWord word = true) : ∀ c ∈ word, IsInner c := by
  match word, plain with
  | first :: second :: rest, plain =>
    rw [isPlainWord, Bool.and_eq_true, List.all_eq_true] at plain
    intro c present
    apply isInner_of_smallOrDigit
    rcases List.mem_cons.mp present with rfl | later
    · rw [plain.1, Bool.true_or]
    · exact plain.2 c later

theorem capitalize_plainWord {word : Text} (plain : isPlainWord word = true) :
    ∃ first capital second rest, word = first :: second :: rest ∧
      word.capitalize = capital :: second :: rest ∧ Text.isAsciiUpper capital = true ∧
      Text.lowerAscii capital = first ∧ ∀ c ∈ second :: rest, IsInner c := by
  have all_inner := inner_of_plainWord plain
  match word, plain with
  | first :: second :: rest, plain =>
    rw [isPlainWord, Bool.and_eq_true] at plain
    obtain ⟨inner_first, inner⟩ := List.forall_mem_cons.mp all_inner
    have ascii : Text.IsAscii (second :: rest) := fun c present => (inner c present).ascii
    obtain ⟨title, upper, back⟩ := Text.forall_ascii
      (fun c => Text.isAsciiLower c = true → Text.titleChar c = [Char.ofNat (c.toNat - 32)] ∧
        Text.isAsciiUpper (Char.ofNat (c.toNat - 32)) = true ∧
        Text.lowerAscii (Char.ofNat (c.toNat - 32)) = c)
      (by decide) inner_first.ascii plain.1
    have small : (second :: rest).map Text.lowerAscii = second :: rest :=
      (List.map_congr_left fun c present => (inner c present).same).trans (List.map_id _)
    refine ⟨first, _, second, rest, rfl, ?_, upper, back, inner⟩
    rw [Text.capitalize, title, Text.lowerAfter_ascii ascii, small]
    rfl

theorem snakeOf_nil : snakeOf [] = [] := by
  rw [snakeOf, separated_nil]
  rfl

theorem snakeOf_mark (rest : Text) : snakeOf (scopeMark ++ rest) = '/' :: snakeOf rest :=
  congrArg (List.map Text.lowerAscii) (separated_mark rest)

theorem snakeOf_cons {c : Char} (notColon : c ≠ ':') (b : Char) (rest : Text) :
    snakeOf (c :: b :: rest) = Text.lowerAscii c ::
      if wordStarts c b rest.head? then '_' :: snakeOf (b :: rest) else snakeOf (b :: rest) := by
  rw [snakeOf, separated_cons notColon]
  split <;> rfl

theorem snakeOf_inner {c : Char} (inner : IsInner c) (tail : Text) :
    snakeOf (c :: tail) = c :: resumed tail := by
  have notColon : c ≠ ':' := by
    rintro rfl
    exact absurd inner.word (by decide)
  cases tail with
  | nil =>
    have ended : resumed [] = [] := snakeOf_nil
    rw [snakeOf, separated_single notColon, List.map_singleton, inner.same, ended]
  | cons b rest =>
    have starts : wordStarts c b rest.head? = Text.isAsciiUpper b := by
      rw [wordStarts, inner.before_capital, Bool.true_or, Bool.and_true]
    rw [snakeOf_cons notColon, starts, inner.same]
    rfl

theorem resumed_inner {c : Char} (inner : IsInner c) (tail : Text) :
    resumed (c :: tail) = snakeOf (c :: tail) := by
  rw [resumed, List.head?_cons, Option.any_some, inner.small]
  rfl

theorem resumed_append_inner {body : Text} (inner : ∀ c ∈ body, IsInner c) (tail : Text) :
    resumed (body ++ tail) = body ++ resumed tail := by
  induction body with
  | nil => rfl
  | cons c rest ih =>
    obtain ⟨first, later⟩ := List.forall_mem_cons.mp inner
    rw [List.cons_append, resumed_inner first, snakeOf_inner first, ih later, List.cons_append]

theorem snakeOf_word {word : Text} (plain : isPlainWord word = true) (tail : Text) :
    snakeOf (word.capitalize ++ tail) = word ++ resumed tail := by
  obtain ⟨first, capital, second, rest, rfl, title, upper, back, inner⟩ := capitalize_plainWord plain
  have notColon : capital ≠ ':' := by
    rintro rfl
    cases upper
  have within : wordStarts capital second (rest ++ tail).head? = false := by
    rw [wordStarts, (inner second List.mem_cons_self).small, Bool.false_and]
  have begun := resumed_append_inner inner tail
  rw [List.cons_append, resumed_inner (inner second List.mem_cons_self)] at begun
  rw [title, List.cons_append, List.cons_append, snakeOf_cons notColon, within, back, begun]
  rfl

theorem resumed_word {word : Text} (plain : isPlainWord word = true) (tail : Text) :
    resumed (word.capitalize ++ tail) = '_' :: snakeOf (word.capitalize ++ tail) := by
  obtain ⟨_, capital, _, _, _, title, upper, _⟩ := capitalize_plainWord plain
  rw [resumed, title, List.cons_append, List.head?_cons, Option.any_some, upper]
  rfl

theorem snakeOf_words {word : Text} {words : List Text}
    (plain : ∀ next ∈ word :: words, isPlainWord next = true)
    {tail : Text} (ended : resumed tail = snakeOf tail) :
    snakeOf ((word :: words).flatMap Text.capitalize ++ tail) =
      Text.join ['_'] (word :: words) ++ snakeOf tail := by
  induction words generalizing word with
  | nil =>
    rw [List.flatMap_singleton, snakeOf_word (plain word List.mem_cons_self), ended]
    rfl
  | cons next others ih =>
    obtain ⟨first, later⟩ := List.forall_mem_cons.mp plain
    have rest := ih later
    rw [List.flatMap_cons, List.append_assoc] at rest
    rw [List.flatMap_cons, List.append_assoc, snakeOf_word first, List.flatMap_cons, List.append_assoc,
      resumed_word (later next List.mem_cons_self), rest]
    simp [Text.join]

theorem snakeOf_segment {segment : Text} (plain : ∀ word ∈ segment.splitOn '_', isPlainWord word = true)
    {tail : Text} (ended : resumed tail = snakeOf tail) :
    snakeOf (camelizeSegment segment ++ tail) = segment ++ snakeOf tail := by
  rcases List.exists_cons_of_ne_nil (Text.splitOn_ne_nil segment '_') with ⟨word, words, shape⟩
  have whole := Text.join_splitOn_self segment '_'
  rw [shape] at plain whole
  rw [camelizeSegment, shape, snakeOf_words plain ended, whole]

theorem snakeOf_segments {segments : List Text}
    (plain : ∀ segment ∈ segments, ∀ word ∈ Text.splitOn segment '_', isPlainWord word = true) :
    snakeOf (Text.join scopeMark (segments.map camelizeSegment)) = Text.join ['/'] segments := by
  induction segments with
  | nil => exact snakeOf_nil
  | cons segment rest ih =>
    obtain ⟨first, later⟩ := List.forall_mem_cons.mp plain
    cases rest with
    | nil =>
      have alone : snakeOf (camelizeSegment segment ++ []) = segment ++ snakeOf [] :=
        snakeOf_segment first rfl
      rw [List.append_nil, snakeOf_nil, List.append_nil] at alone
      exact alone
    | cons next others =>
      have ended (text : Text) : resumed (scopeMark ++ text) = snakeOf (scopeMark ++ text) := rfl
      have shape : Text.join scopeMark ((segment :: next :: others).map camelizeSegment) =
          camelizeSegment segment ++
            (scopeMark ++ Text.join scopeMark ((next :: others).map camelizeSegment)) :=
        List.append_assoc ..
      rw [shape, snakeOf_segment first (ended _), snakeOf_mark, ih later]
      simp [Text.join]

theorem isConstantSegment_camelizeSegment {segment : Text}
    (plain : ∀ word ∈ segment.splitOn '_', isPlainWord word = true) {suffix : Text}
    (inside : ∀ c ∈ suffix, Text.isWord c = true) :
    isConstantSegment (camelizeSegment segment ++ suffix) = true := by
  have words : ∀ word ∈ segment.splitOn '_', ∀ c ∈ Text.capitalize word, Text.isWord c = true := by
    intro word member c present
    obtain ⟨_, capital, _, _, _, title, upper, _, inner⟩ := capitalize_plainWord (plain word member)
    rw [title] at present
    rcases List.mem_cons.mp present with rfl | later
    · exact isWord_of_isAsciiUpper upper
    · exact (inner c later).word
  rcases List.exists_cons_of_ne_nil (Text.splitOn_ne_nil segment '_') with ⟨word, others, shape⟩
  rw [shape] at plain words
  obtain ⟨_, capital, second, rest, _, title, upper, _⟩ :=
    capitalize_plainWord (plain word List.mem_cons_self)
  rw [camelizeSegment, shape, List.flatMap_cons, title, List.cons_append, List.cons_append,
    isConstantSegment_cons]
  refine ⟨upper, ?_⟩
  intro c present
  rcases List.mem_append.mp present with inWords | inSuffix
  · rcases List.mem_append.mp inWords with inWord | inOthers
    · exact words word List.mem_cons_self c (by rw [title]; exact List.mem_cons_of_mem _ inWord)
    · obtain ⟨next, member, inNext⟩ := List.mem_flatMap.mp inOthers
      exact words next (List.mem_cons_of_mem _ member) c inNext
  · exact inside c inSuffix

theorem segments_of_camelize {segments : List Text} (nonempty : segments ≠ [])
    (plain : ∀ segment ∈ segments, ∀ word ∈ Text.splitOn segment '_', isPlainWord word = true)
    {suffix : Text} (inside : ∀ c ∈ suffix, Text.isWord c = true) :
    ∀ piece ∈ scopeSegments (Text.join scopeMark (segments.map camelizeSegment) ++ suffix),
      isConstantSegment piece = true := by
  induction segments with
  | nil => exact absurd rfl nonempty
  | cons segment rest ih =>
    obtain ⟨first, later⟩ := List.forall_mem_cons.mp plain
    cases rest with
    | nil =>
      have constant := isConstantSegment_camelizeSegment first inside
      have alone : Text.join scopeMark ([segment].map camelizeSegment) = camelizeSegment segment := rfl
      rw [alone, scopeSegments_of_not_mem (colon_not_mem_segment constant)]
      simpa using constant
    | cons next others =>
      have constant : isConstantSegment (camelizeSegment segment) = true := by
        simpa using isConstantSegment_camelizeSegment first (List.forall_mem_nil _)
      have shape : Text.join scopeMark ((segment :: next :: others).map camelizeSegment) ++ suffix =
          camelizeSegment segment ++
            (scopeMark ++ (Text.join scopeMark ((next :: others).map camelizeSegment) ++ suffix)) := by
        simp [Text.join]
      rw [shape, scopeSegments_append (colon_not_mem_segment constant)]
      exact List.forall_mem_cons.mpr ⟨constant, ih (List.cons_ne_nil next others) later⟩

namespace IsCanonicalName

variable {name : Text} (canonical : IsCanonicalName name)

include canonical

theorem snakeOf_camelize : snakeOf (camelize name) = name := by
  rw [camelize, snakeOf_segments canonical, Text.join_splitOn_self]

theorem ascii : name.IsAscii := by
  intro c present
  rw [← Text.join_splitOn_self name '/'] at present
  rcases Text.mem_join present with mark | ⟨segment, member, inside⟩
  · rw [List.mem_singleton.mp mark]
    decide
  · rw [← Text.join_splitOn_self segment '_'] at inside
    rcases Text.mem_join inside with mark | ⟨word, inSegment, inWord⟩
    · rw [List.mem_singleton.mp mark]
      decide
    · exact (inner_of_plainWord (canonical segment member word inSegment) c inWord).ascii

theorem path : isConstantPath (controllerClassName name) = true ∧
    ¬ scopeMark <+: controllerClassName name := by
  have segments : ∀ piece ∈ scopeSegments (controllerClassName name), isConstantSegment piece = true :=
    segments_of_camelize (Text.splitOn_ne_nil name '/') canonical (by decide)
  have relative : ¬ scopeMark <+: controllerClassName name := by
    rintro ⟨tail, shape⟩
    rw [← shape] at segments
    exact absurd (segments [] List.mem_cons_self) (by decide)
  exact ⟨(isConstantPath_iff_segments relative).mpr segments, relative⟩

theorem underscore_camelize : underscore (camelize name) = name := by
  have noDash : '-' ∉ camelize name := fun present =>
    not_mem_path canonical.path.1 (by decide) (by decide) (List.mem_append_left controllerSuffix present)
  rw [underscore_eq_lower noDash, Text.lower_ascii (camelize_ascii canonical.ascii).2.separated]
  exact canonical.snakeOf_camelize

theorem stem : camelize name ≠ [] ∧ ¬ scopeMark <:+ camelize name := by
  have segments : ∀ piece ∈ scopeSegments (camelize name), isConstantSegment piece = true := by
    simpa [camelize] using
      segments_of_camelize (Text.splitOn_ne_nil name '/') canonical (List.forall_mem_nil _)
  obtain ⟨front, segment, shape, last, _⟩ := exists_segment (camelize name)
  have constant := segments segment (List.mem_of_getLast? last)
  have nonempty : segment ≠ [] := by
    rintro rfl
    cases constant
  rw [shape]
  refine ⟨List.append_ne_nil_of_right_ne_nil front nonempty, ?_⟩
  rintro ⟨before, ending⟩
  have colon : segment.getLast? = some ':' := by
    rw [← List.getLast?_append_of_ne_nil front nonempty, ← ending, List.getLast?_append]
    rfl
  exact colon_not_mem_segment constant (List.mem_of_getLast? colon)

theorem converts : controllerOfClass? (controllerClassName name) = some name := by
  obtain ⟨constant, relative⟩ := canonical.path
  obtain ⟨nonempty, noMark⟩ := canonical.stem
  have named : isConstantName (controllerClassName name) = true :=
    isConstantName_of_isConstantPath constant (not_mem_path constant (by decide) (by decide))
  have bare : (controllerClassName name).trim.dropWhile (· == ':') = controllerClassName name := by
    rw [trim_path constant, dropWhile_path constant, relativePath, Text.afterPrefix?_eq_none relative,
      Option.getD_none]
  have stem : Text.beforeSuffix? (controllerClassName name) controllerSuffix = some (camelize name) :=
    Text.beforeSuffix?_append _ _
  have kept : List.isSuffixOf scopeMark (camelize name) = false := by
    rw [Bool.eq_false_iff]
    exact fun ends => noMark (List.isSuffixOf_iff_suffix.mp ends)
  simp [controllerOfClass?, bare, named, stem, nonempty, kept, canonical.underscore_camelize]

end IsCanonicalName

theorem controllerOfClass?_congr {className other : Text}
    (same : className.trim.dropWhile (· == ':') = other.trim.dropWhile (· == ':')) :
    controllerOfClass? className = controllerOfClass? other := by
  rw [controllerOfClass?, controllerOfClass?, same]

/-- The class name of a canonical name stands for that name, also as a name of the top level and between
white space. -/
theorem canonical_name_recovered {name : Text} (canonical : IsCanonicalName name)
    {before mark after : Text} (marked : mark = [] ∨ mark = scopeMark)
    (blankBefore : ∀ c ∈ before, Text.isBlank c = true)
    (blankAfter : ∀ c ∈ after, Text.isBlank c = true) :
    controllerOfClass? (before ++ (mark ++ controllerClassName name ++ after)) = some name := by
  obtain ⟨constant, relative⟩ := canonical.path
  have written : isConstantPath (mark ++ controllerClassName name) = true := by
    rcases marked with rfl | rfl
    · exact constant
    · rw [isConstantPath, Text.afterPrefix?_append, Option.getD_some]
      exact List.all_eq_true.mpr ((isConstantPath_iff_segments relative).mp constant)
  have nonempty : mark ++ controllerClassName name ≠ [] :=
    List.append_ne_nil_of_right_ne_nil _ (List.append_ne_nil_of_right_ne_nil _ (by decide))
  have unmarked : relativePath (mark ++ controllerClassName name) =
      relativePath (controllerClassName name) := by
    rw [relativePath, relativePath, Text.afterPrefix?_eq_none relative]
    rcases marked with rfl | rfl
    · rw [List.nil_append, Text.afterPrefix?_eq_none relative]
    · rw [Text.afterPrefix?_append, Option.getD_some, Option.getD_none]
  rw [← canonical.converts]
  apply controllerOfClass?_congr
  rw [Text.trim_of_padded nonempty (trim_path written) blankBefore blankAfter, dropWhile_path written,
    unmarked, trim_path constant, dropWhile_path constant]

def numberedName : Text := "api/v10/oauth2_controller/controller".toList

theorem canonical_numberedName_recovered :
    IsCanonicalName numberedName ∧
      controllerClassName numberedName = "Api::V10::Oauth2Controller::ControllerController".toList ∧
      controllerOfClass? " ::Api::V10::Oauth2Controller::ControllerController\n".toList =
        some numberedName := by
  have canonical : IsCanonicalName numberedName := by decide
  have className : controllerClassName numberedName =
      "Api::V10::Oauth2Controller::ControllerController".toList := by
    decide
  refine ⟨canonical, className, ?_⟩
  have recovered :
      controllerOfClass? ([' '] ++ (scopeMark ++ controllerClassName numberedName ++ ['\n'])) =
        some numberedName :=
    canonical_name_recovered canonical (.inr rfl) (by decide) (by decide)
  rwa [className] at recovered

end RouteReport
