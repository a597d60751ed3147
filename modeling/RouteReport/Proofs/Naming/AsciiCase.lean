import RouteReport.Naming.Inflection
import RouteReport.Proofs.TextLaws

namespace RouteReport

namespace Text

def IsAscii (text : Text) : Prop := ∀ c ∈ text, c.toNat < 128

instance (text : Text) : Decidable text.IsAscii :=
  List.decidableBAll (fun c : Char => c.toNat < 128) text

theorem IsAscii.append {front back : Text} (first : front.IsAscii) (second : back.IsAscii) :
    Text.IsAscii (front ++ back) := by
  intro c present
  rcases List.mem_append.mp present with inFront | inBack
  · exact first c inFront
  · exact second c inBack

theorem IsAscii.of_subset {text other : Text} (ascii : other.IsAscii) (included : text ⊆ other) :
    text.IsAscii :=
  fun c present => ascii c (included present)

/-- The small letter of a capital of ASCII; other characters stay. -/
def lowerAscii (c : Char) : Char := if isAsciiUpper c then Char.ofNat (c.toNat + 32) else c

theorem forall_ascii (property : Char → Prop) (all : ∀ n < 128, property (Char.ofNat n)) {c : Char}
    (ascii : c.toNat < 128) : property c := by
  have number := all c.toNat ascii
  rwa [Char.ofNat_toNat] at number

theorem lowerAscii_spec {c : Char} (ascii : c.toNat < 128) :
    (lowerAscii c).toNat < 128 ∧ lowerAscii (lowerAscii c) = lowerAscii c ∧
      isBlank (lowerAscii c) = isBlank c ∧ (isAsciiUpper c = true → lowerAscii c ≠ ':') :=
  forall_ascii (fun c => (lowerAscii c).toNat < 128 ∧ lowerAscii (lowerAscii c) = lowerAscii c ∧
    isBlank (lowerAscii c) = isBlank c ∧ (isAsciiUpper c = true → lowerAscii c ≠ ':'))
    (by decide +kernel) ascii

theorem toNat_lowerAscii {c : Char} (ascii : c.toNat < 128) : (lowerAscii c).toNat < 128 :=
  (lowerAscii_spec ascii).1

theorem lowerAscii_lowerAscii {c : Char} (ascii : c.toNat < 128) :
    lowerAscii (lowerAscii c) = lowerAscii c :=
  (lowerAscii_spec ascii).2.1

theorem isBlank_lowerAscii {c : Char} (ascii : c.toNat < 128) :
    isBlank (lowerAscii c) = isBlank c :=
  (lowerAscii_spec ascii).2.2.1

theorem lowerAscii_ne_colon {c : Char} (ascii : c.toNat < 128) (upper : isAsciiUpper c = true) :
    lowerAscii c ≠ ':' :=
  (lowerAscii_spec ascii).2.2.2 upper

theorem lowerAfter_ascii {text : Text} (ascii : text.IsAscii) (before : Text) :
    lowerAfter before text = text.map lowerAscii := by
  induction text generalizing before with
  | nil => rfl
  | cons c rest ih =>
    have first : c.toNat < 128 := ascii c List.mem_cons_self
    have later : IsAscii rest := ascii.of_subset (List.subset_cons_self c rest)
    rw [lowerAfter, lowerBetween, if_pos first, ih later]
    rfl

theorem lower_ascii {text : Text} (ascii : text.IsAscii) : text.lower = text.map lowerAscii :=
  lowerAfter_ascii ascii []

theorem IsAscii.lower {text : Text} (ascii : text.IsAscii) : text.lower.IsAscii := by
  rw [lower_ascii ascii]
  intro c present
  rcases List.mem_map.mp present with ⟨source, inText, rfl⟩
  exact toNat_lowerAscii (ascii source inText)

theorem lowerAscii_capitalize {text : Text} (ascii : text.IsAscii) :
    text.capitalize.map lowerAscii = text.map lowerAscii ∧ text.capitalize.IsAscii := by
  cases text with
  | nil => exact ⟨rfl, ascii⟩
  | cons c rest =>
    have first : c.toNat < 128 := ascii c List.mem_cons_self
    have later : IsAscii rest := ascii.of_subset (List.subset_cons_self c rest)
    have title : titleChar c = [if isAsciiLower c then Char.ofNat (c.toNat - 32) else c] := by
      rw [titleChar, if_pos first, upperChar, if_pos first]
    obtain ⟨same, small⟩ :
        lowerAscii (if isAsciiLower c then Char.ofNat (c.toNat - 32) else c) = lowerAscii c ∧
          (if isAsciiLower c then Char.ofNat (c.toNat - 32) else c).toNat < 128 :=
      forall_ascii (fun c =>
        lowerAscii (if isAsciiLower c then Char.ofNat (c.toNat - 32) else c) = lowerAscii c ∧
          (if isAsciiLower c then Char.ofNat (c.toNat - 32) else c).toNat < 128)
        (by decide) first
    rw [capitalize, title, lowerAfter_ascii later]
    constructor
    · simp only [List.singleton_append, List.map_cons, List.map_map, same]
      congr 1
      apply List.map_congr_left
      intro x present
      exact lowerAscii_lowerAscii (later x present)
    · apply IsAscii.append
      · simpa [IsAscii] using small
      · rw [← lower_ascii later]
        exact later.lower

theorem join_map_splitOn (text mark : Text) (separator : Char) (image : Char → Text) :
    join mark ((text.splitOn separator).map fun piece => piece.flatMap image) =
      text.flatMap fun c => if c = separator then mark else image c := by
  induction text with
  | nil => rfl
  | cons c rest ih =>
    rcases List.exists_cons_of_ne_nil (splitOn_ne_nil rest separator) with ⟨piece, pieces, shape⟩
    rw [shape] at ih
    by_cases cut : c = separator
    · rw [List.flatMap_cons, ← ih]
      simp [splitOn, cut, shape, join]
    · rw [List.flatMap_cons, ← ih]
      cases pieces <;> simp [splitOn, cut, shape, join]

theorem subset_join (separator : Text) {piece : Text} {pieces : List Text} (member : piece ∈ pieces) :
    piece ⊆ join separator pieces := by
  induction pieces with
  | nil => cases member
  | cons first rest ih =>
    cases rest with
    | nil =>
      rw [List.mem_singleton.mp member]
      exact List.Subset.refl _
    | cons next others =>
      rcases List.mem_cons.mp member with rfl | later
      · exact List.subset_append_of_subset_left _ (List.subset_append_left _ _)
      · exact List.subset_append_of_subset_right _ (ih later)

theorem subset_of_mem_splitOn {text piece : Text} {separator : Char}
    (member : piece ∈ text.splitOn separator) : piece ⊆ text := by
  have inside := subset_join [separator] member
  rwa [join_splitOn_self] at inside

theorem IsAscii.join {separator : Text} {pieces : List Text} (ascii : separator.IsAscii)
    (each : ∀ piece ∈ pieces, piece.IsAscii) : (join separator pieces).IsAscii := by
  intro c present
  rcases mem_join present with inSeparator | ⟨piece, member, inPiece⟩
  · exact ascii c inSeparator
  · exact each piece member c inPiece

theorem map_join (change : Char → Char) (separator : Text) (pieces : List Text) :
    (Text.join separator pieces).map change =
      Text.join (separator.map change) (pieces.map fun piece => piece.map change) := by
  induction pieces with
  | nil => rfl
  | cons first rest ih =>
    cases rest with
    | nil => rfl
    | cons next others =>
      rw [join, List.map_append, List.map_append, ih]
      rfl

theorem join_nil (pieces : List Text) : join [] pieces = pieces.flatten := by
  induction pieces with
  | nil => rfl
  | cons first rest ih =>
    cases rest with
    | nil => simp [join]
    | cons next others =>
      rw [join, ih]
      simp

end Text

def spelled (c : Char) : Text :=
  if c = '/' then scopeMark else if c = '_' then [] else [Text.lowerAscii c]

theorem camelizeSegment_ascii {segment : Text} (ascii : segment.IsAscii) :
    (camelizeSegment segment).map Text.lowerAscii =
        segment.flatMap (fun c => if c = '_' then [] else [Text.lowerAscii c]) ∧
      (camelizeSegment segment).IsAscii := by
  have small : ∀ piece ∈ Text.splitOn segment '_', Text.IsAscii piece :=
    fun piece member => ascii.of_subset (Text.subset_of_mem_splitOn member)
  have cut := Text.join_map_splitOn segment [] '_' fun c => [Text.lowerAscii c]
  constructor
  · rw [← cut, Text.join_nil, camelizeSegment, List.map_flatMap, List.flatMap]
    congr 1
    apply List.map_congr_left
    intro piece member
    rw [(Text.lowerAscii_capitalize (small piece member)).1, List.map_eq_flatMap]
  · intro c present
    rcases List.mem_flatMap.mp present with ⟨piece, member, inside⟩
    exact (Text.lowerAscii_capitalize (small piece member)).2 c inside

theorem camelize_ascii {snake : Text} (ascii : snake.IsAscii) :
    (camelize snake).map Text.lowerAscii = snake.flatMap spelled ∧ (camelize snake).IsAscii := by
  have small : ∀ piece ∈ Text.splitOn snake '/', Text.IsAscii piece :=
    fun piece member => ascii.of_subset (Text.subset_of_mem_splitOn member)
  have cut := Text.join_map_splitOn snake scopeMark '/'
    fun c => if c = '_' then [] else [Text.lowerAscii c]
  constructor
  · have spelling : snake.flatMap spelled = _ := cut.symm
    rw [spelling, camelize, Text.map_join, List.map_map]
    congr 1
    apply List.map_congr_left
    intro piece member
    exact (camelizeSegment_ascii (small piece member)).1
  · apply Text.IsAscii.join (by decide)
    intro piece member
    rcases List.mem_map.mp member with ⟨segment, inSnake, rfl⟩
    exact (camelizeSegment_ascii (small segment inSnake)).2

theorem spelled_separateWords (camel : Text) :
    (separateWords camel).flatMap spelled = camel.flatMap spelled := by
  induction camel with
  | nil => rfl
  | cons a rest ih =>
    cases rest with
    | nil => rfl
    | cons b rest =>
      have whole : (a :: b :: rest).flatMap spelled =
          spelled a ++ (separateWords (b :: rest)).flatMap spelled := by
        rw [List.flatMap_cons, ih]
      rw [whole, separateWords]
      split <;> rfl

theorem mem_separateWords {camel : Text} {c : Char} (present : c ∈ separateWords camel) :
    c ∈ camel ∨ c = '_' := by
  induction camel with
  | nil => cases present
  | cons a rest ih =>
    cases rest with
    | nil => exact .inl present
    | cons b rest =>
      have parts : c = a ∨ c = '_' ∨ c ∈ separateWords (b :: rest) := by
        rw [separateWords] at present
        split at present
        · simpa using present
        · exact (List.mem_cons.mp present).imp_right .inr
      rcases parts with rfl | mark | later
      · exact .inl List.mem_cons_self
      · exact .inr mark
      · exact (ih later).imp_left (List.mem_cons_of_mem a)

theorem exists_of_marked {c : Char} {rest : Text}
    (marked : (scopeMark.isPrefixOf (c :: rest) && !scopeMark.isEmpty) = true) :
    c = ':' ∧ ∃ tail, rest = ':' :: tail := by
  have starts : scopeMark <+: c :: rest := by simpa [scopeMark] using marked
  rcases starts with ⟨tail, shape⟩
  rcases List.cons_eq_cons.mp shape with ⟨first, second⟩
  exact ⟨first.symm, tail, second.symm⟩

theorem spelled_replaceAll (text : Text) :
    (text.replaceAll scopeMark ['/']).flatMap spelled = text.flatMap spelled := by
  fun_induction Text.replaceAll text scopeMark ['/'] with
  | case1 => rfl
  | case2 c rest marked ih =>
    rcases exists_of_marked marked with ⟨rfl, tail, rfl⟩
    have mark : spelled '/' = spelled ':' ++ spelled ':' := by decide
    have dropped : (':' :: tail).drop (scopeMark.length - 1) = tail := rfl
    rw [List.flatMap_append, ih, dropped]
    simp [mark]
  | case3 c rest _ ih => rw [List.flatMap_cons, ih, List.flatMap_cons]

theorem mem_replaceAll {text : Text} {c : Char} (present : c ∈ text.replaceAll scopeMark ['/']) :
    c ∈ text ∨ c = '/' := by
  fun_induction Text.replaceAll text scopeMark ['/'] with
  | case1 => cases present
  | case2 first rest marked ih =>
    rcases List.mem_append.mp present with inMark | later
    · exact .inr (List.mem_singleton.mp inMark)
    · rcases ih later with inRest | mark
      · exact .inl (List.mem_cons_of_mem _ (List.mem_of_mem_drop inRest))
      · exact .inr mark
  | case3 first rest _ ih =>
    simp only [List.mem_cons] at present ⊢
    tauto

theorem spelled_lower {text : Text} (ascii : text.IsAscii) :
    text.lower.flatMap spelled = text.flatMap spelled := by
  rw [Text.lower_ascii ascii, List.flatMap_map]
  apply List.flatMap_congr
  intro c present
  exact Text.forall_ascii (fun c => spelled (Text.lowerAscii c) = spelled c)
    (by decide) (ascii c present)

theorem spelled_of_plain {text : Text} (noSlash : '/' ∉ text) (noUnderscore : '_' ∉ text) :
    text.flatMap spelled = text.map Text.lowerAscii := by
  rw [List.map_eq_flatMap]
  apply List.flatMap_congr
  intro c present
  have notSlash : c ≠ '/' := fun same => noSlash (same ▸ present)
  have notUnderscore : c ≠ '_' := fun same => noUnderscore (same ▸ present)
  simp [spelled, notSlash, notUnderscore]

def separated (camel : Text) : Text := (separateWords camel).replaceAll scopeMark ['/']

theorem Text.IsAscii.separated {camel : Text} (ascii : camel.IsAscii) : (separated camel).IsAscii := by
  intro c present
  rcases mem_replaceAll present with inside | rfl
  · rcases mem_separateWords inside with inCamel | rfl
    · exact ascii c inCamel
    · decide
  · decide

theorem underscore_eq_lower {camel : Text} (noDash : '-' ∉ camel) :
    underscore camel = (separated camel).lower := by
  have same : (separateWords camel).map (fun c => if c == '-' then '_' else c) =
      separateWords camel := by
    refine (List.map_congr_left ?_).trans (List.map_id _)
    intro c present
    have notDash : c ≠ '-' := by
      rintro rfl
      rcases mem_separateWords present with inCamel | underscore
      · exact noDash inCamel
      · cases underscore
    simp [notDash]
  rw [underscore, same, separated]

theorem underscore_ascii {camel : Text} (ascii : camel.IsAscii) (noDash : '-' ∉ camel) :
    (underscore camel).flatMap spelled = camel.flatMap spelled ∧ (underscore camel).IsAscii := by
  have small := ascii.separated
  rw [underscore_eq_lower noDash]
  constructor
  · calc
      (separated camel).lower.flatMap spelled = (separated camel).flatMap spelled :=
        spelled_lower small
      _ = (separateWords camel).flatMap spelled := spelled_replaceAll (separateWords camel)
      _ = camel.flatMap spelled := spelled_separateWords camel
  · exact small.lower

end RouteReport
