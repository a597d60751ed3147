import RouteReport.Proofs.Naming.Respelling

/-! Class names that their respelling gives back unchanged. Within ASCII these are the names whose
capitals all start words, such as `HtmlPagesController` but not `HTMLPagesController`. -/

namespace RouteReport

def segmentFrom (start : Bool) (segment : Text) : Text :=
  match segment.splitOn '_' with
  | word :: words =>
    (if start then word.capitalize else word.map Text.lowerAscii) ++ words.flatMap Text.capitalize
  | [] => []

def camelFrom (start : Bool) : Text → Text
  | [] => []
  | c :: rest =>
    if c = '/' then scopeMark ++ camelFrom true rest
    else if c = '_' then camelFrom true rest
    else (if start then Text.titleChar c else [Text.lowerAscii c]) ++ camelFrom false rest

theorem segmentFrom_start (segment : Text) : segmentFrom true segment = camelizeSegment segment := by
  rcases List.exists_cons_of_ne_nil (Text.splitOn_ne_nil segment '_') with ⟨word, words, shape⟩
  rw [segmentFrom, camelizeSegment, shape]
  rfl

theorem segmentFrom_underscore (start : Bool) (segment : Text) :
    segmentFrom start ('_' :: segment) = segmentFrom true segment := by
  have cut : Text.splitOn ('_' :: segment) '_' = [] :: segment.splitOn '_' := rfl
  rw [segmentFrom_start, segmentFrom, cut]
  cases start <;> rfl

theorem segmentFrom_cons (start : Bool) {c : Char} (other : c ≠ '_') {segment : Text}
    (ascii : segment.IsAscii) :
    segmentFrom start (c :: segment) =
      (if start then Text.titleChar c else [Text.lowerAscii c]) ++ segmentFrom false segment := by
  obtain ⟨word, words, shape, cut⟩ := Text.splitOn_cons other segment
  have small : word.IsAscii :=
    ascii.of_subset (Text.subset_of_mem_splitOn (shape ▸ List.mem_cons_self))
  rw [segmentFrom, segmentFrom, cut, shape]
  cases start with
  | false => rfl
  | true => simp [Text.capitalize, Text.lowerAfter_ascii small]

theorem join_camelizeSegments (segment : Text) (segments : List Text) :
    Text.join scopeMark ((segment :: segments).map camelizeSegment) =
      segmentFrom true segment ++ segments.flatMap fun next => scopeMark ++ segmentFrom true next := by
  induction segments generalizing segment with
  | nil => simp [Text.join, segmentFrom_start]
  | cons next others ih =>
    have rest := ih next
    simp only [List.map_cons] at rest ⊢
    rw [Text.join, rest, segmentFrom_start segment, List.flatMap_cons, List.append_assoc,
      List.append_assoc]

theorem camelFrom_eq {snake : Text} (ascii : snake.IsAscii) {segment : Text} {segments : List Text}
    (cut : snake.splitOn '/' = segment :: segments) (start : Bool) :
    camelFrom start snake =
      segmentFrom start segment ++ segments.flatMap fun next => scopeMark ++ segmentFrom true next := by
  induction snake generalizing start segment segments with
  | nil =>
    obtain ⟨rfl, rfl⟩ := List.cons_eq_cons.mp cut
    cases start <;> rfl
  | cons c rest ih =>
    have later : Text.IsAscii rest := ascii.of_subset (List.subset_cons_self c rest)
    rcases List.exists_cons_of_ne_nil (Text.splitOn_ne_nil rest '/') with ⟨next, others, shape⟩
    by_cases slash : c = '/'
    · subst slash
      have cutHere : Text.splitOn ('/' :: rest) '/' = [] :: Text.splitOn rest '/' := rfl
      rw [cutHere, shape] at cut
      obtain ⟨rfl, rfl⟩ := List.cons_eq_cons.mp cut
      rw [camelFrom, if_pos rfl, ih later shape true, List.flatMap_cons, List.append_assoc]
      cases start <;> rfl
    · obtain ⟨piece, pieces, again, longer⟩ := Text.splitOn_cons slash rest
      rw [longer] at cut
      obtain ⟨rfl, rfl⟩ := List.cons_eq_cons.mp cut
      by_cases underscore : c = '_'
      · subst underscore
        rw [camelFrom, if_neg slash, if_pos rfl, ih later again true, segmentFrom_underscore]
      · have small : piece.IsAscii :=
          later.of_subset (Text.subset_of_mem_splitOn (again ▸ List.mem_cons_self))
        rw [camelFrom, if_neg slash, if_neg underscore, ih later again false,
          segmentFrom_cons start underscore small, List.append_assoc]

theorem camelize_eq_camelFrom {snake : Text} (ascii : snake.IsAscii) :
    camelize snake = camelFrom true snake := by
  rcases List.exists_cons_of_ne_nil (Text.splitOn_ne_nil snake '/') with ⟨segment, segments, cut⟩
  rw [camelFrom_eq ascii cut, camelize, cut, join_camelizeSegments]

/-- A capital follows a colon or starts a word. -/
def capitalsStartWords : Text → Bool
  | a :: b :: rest =>
    (!Text.isAsciiUpper b || a == ':' || wordStarts a b rest.head?) && capitalsStartWords (b :: rest)
  | _ => true

def recased (start : Bool) (c : Char) : Char :=
  if start then (if Text.isAsciiLower c then Char.ofNat (c.toNat - 32) else c) else Text.lowerAscii c

theorem titleChar_lowerAscii (start : Bool) {c : Char} (ascii : c.toNat < 128) :
    (if start then Text.titleChar (Text.lowerAscii c) else [Text.lowerAscii (Text.lowerAscii c)]) =
      [recased start c] := by
  revert start
  exact Text.forall_ascii (fun c => ∀ start : Bool,
    (if start then Text.titleChar (Text.lowerAscii c) else [Text.lowerAscii (Text.lowerAscii c)]) =
      [recased start c]) (by decide) ascii

theorem recased_eq_self_iff (start : Bool) {c : Char} (ascii : c.toNat < 128) :
    recased start c = c ↔ (if start then Text.isAsciiLower c else Text.isAsciiUpper c) = false := by
  revert start
  exact Text.forall_ascii (fun c => ∀ start : Bool, recased start c = c ↔
    (if start then Text.isAsciiLower c else Text.isAsciiUpper c) = false) (by decide) ascii

theorem lowerAscii_eq_mark {c : Char} (ascii : c.toNat < 128) :
    (Text.lowerAscii c = '/' ↔ c = '/') ∧ (Text.lowerAscii c = '_' ↔ c = '_') :=
  Text.forall_ascii (fun c => (Text.lowerAscii c = '/' ↔ c = '/') ∧
    (Text.lowerAscii c = '_' ↔ c = '_')) (by decide) ascii

def respelledFrom (start : Bool) (name : Text) : Text :=
  camelFrom start ((separated name).map Text.lowerAscii)

theorem separateWords_colon (rest : Text) : separateWords (':' :: rest) = ':' :: separateWords rest := by
  cases rest with
  | nil => rfl
  | cons b others =>
    have noWord : Text.isAsciiLower ':' = false ∧ Text.isDigit ':' = false ∧
        Text.isAsciiUpper ':' = false := by decide
    have noStart : wordStarts ':' b others.head? = false := by
      simp [wordStarts, noWord]
    rw [separateWords, noStart]
    rfl

theorem replaceAll_cons_of_ne {c : Char} (notColon : c ≠ ':') (rest : Text) :
    Text.replaceAll (c :: rest) scopeMark ['/'] = c :: Text.replaceAll rest scopeMark ['/'] := by
  rw [Text.replaceAll]
  simp [scopeMark, notColon.symm]

theorem separated_mark (rest : Text) : separated (':' :: ':' :: rest) = '/' :: separated rest := by
  rw [separated, separateWords_colon, separateWords_colon, Text.replaceAll]
  simp [scopeMark, separated]

theorem separated_nil : separated [] = [] := by
  have short : separateWords [] = [] := rfl
  rw [separated, short, Text.replaceAll]

section Separated

variable {c : Char} (notColon : c ≠ ':')

include notColon

theorem separated_single : separated [c] = [c] := by
  have short : separateWords [c] = [c] := rfl
  rw [separated, short, replaceAll_cons_of_ne notColon, Text.replaceAll]

theorem separated_cons (b : Char) (rest : Text) : separated (c :: b :: rest) =
    c :: if wordStarts c b rest.head? then '_' :: separated (b :: rest) else separated (b :: rest) := by
  rw [separated, separateWords]
  split
  · rw [replaceAll_cons_of_ne notColon, replaceAll_cons_of_ne (by decide)]
    rfl
  · rw [replaceAll_cons_of_ne notColon]
    rfl

end Separated

theorem respelledFrom_mark (start : Bool) (rest : Text) :
    respelledFrom start (':' :: ':' :: rest) = scopeMark ++ respelledFrom true rest := by
  rw [respelledFrom, separated_mark]
  rfl

section Character

variable {c : Char} (ascii : c.toNat < 128) (plain : c ≠ ':' ∧ c ≠ '/' ∧ c ≠ '_')

include ascii plain

theorem camelFrom_cons (start : Bool) (rest : Text) :
    camelFrom start (Text.lowerAscii c :: rest) = recased start c :: camelFrom false rest := by
  have notSlash : Text.lowerAscii c ≠ '/' :=
    fun same => plain.2.1 ((lowerAscii_eq_mark ascii).1.mp same)
  have notUnderscore : Text.lowerAscii c ≠ '_' :=
    fun same => plain.2.2 ((lowerAscii_eq_mark ascii).2.mp same)
  rw [camelFrom, if_neg notSlash, if_neg notUnderscore, titleChar_lowerAscii start ascii]
  rfl

theorem respelledFrom_single (start : Bool) : respelledFrom start [c] = [recased start c] := by
  rw [respelledFrom, separated_single plain.1]
  exact camelFrom_cons ascii plain start []

theorem respelledFrom_cons (start : Bool) (b : Char) (rest : Text) :
    respelledFrom start (c :: b :: rest) =
      recased start c :: respelledFrom (wordStarts c b rest.head?) (b :: rest) := by
  rw [respelledFrom, separated_cons plain.1, List.map_cons, camelFrom_cons ascii plain]
  cases wordStarts c b rest.head? <;> rfl

end Character

inductive PathTail : Text → Prop
  | nil : PathTail []
  | mark {c : Char} {rest : Text} (upper : Text.isAsciiUpper c = true) (tail : PathTail (c :: rest)) :
      PathTail (':' :: ':' :: c :: rest)
  | word {c : Char} {rest : Text} (ascii : c.toNat < 128) (word : Text.isWord c = true)
      (notUnderscore : c ≠ '_') (tail : PathTail rest) : PathTail (c :: rest)

theorem pathTail_of_segments {name : Text} (ascii : name.IsAscii) (noUnderscore : '_' ∉ name)
    (word : ∀ piece, (scopeSegments name).head? = some piece → ∀ c ∈ piece, Text.isWord c = true)
    (later : ∀ piece ∈ (scopeSegments name).tail, isConstantSegment piece = true) : PathTail name := by
  fun_induction scopeSegments name with
  | case1 => exact .nil
  | case2 rest ih =>
    rcases List.exists_cons_of_ne_nil (scopeSegments_ne_nil rest) with ⟨piece, pieces, shape⟩
    rw [List.tail_cons, shape] at later
    have first := later piece List.mem_cons_self
    cases piece with
    | nil => cases first
    | cons c others =>
      obtain ⟨tail, rfl⟩ := List.head?_eq_some_iff.mp (head?_of_scopeSegments shape)
      refine .mark ((isConstantSegment_cons c others).mp first).1 (ih ?_ ?_ ?_ ?_)
      · exact ascii.of_subset (List.subset_append_right scopeMark _)
      · exact fun present => noUnderscore (List.mem_append_right scopeMark present)
      · intro piece head x inPiece
        rw [shape, List.head?_cons, Option.some.injEq] at head
        exact isWord_of_mem_segment first (head ▸ inPiece)
      · intro segment member
        exact later segment (List.mem_of_mem_tail (shape ▸ member))
  | case3 c rest notMark piece pieces shape ih =>
    have wordPiece : ∀ x ∈ c :: piece, Text.isWord x = true := word _ rfl
    have notUnderscore : c ≠ '_' := fun same => noUnderscore (same ▸ List.mem_cons_self)
    refine .word (ascii c List.mem_cons_self) (wordPiece c List.mem_cons_self) notUnderscore
      (ih ?_ ?_ ?_ ?_)
    · exact ascii.of_subset (List.subset_cons_self c rest)
    · exact fun present => noUnderscore (List.mem_cons_of_mem c present)
    · intro first head x inPiece
      rw [shape, List.head?_cons, Option.some.injEq] at head
      exact wordPiece x (List.mem_cons_of_mem c (head ▸ inPiece))
    · intro segment member
      exact later segment (by simpa [shape] using member)
  | case4 c rest _ shape _ => exact absurd shape (scopeSegments_ne_nil rest)

theorem plain_of_word {c : Char} (word : Text.isWord c = true) (notUnderscore : c ≠ '_') :
    c ≠ ':' ∧ c ≠ '/' ∧ c ≠ '_' := by
  refine ⟨?_, ?_, notUnderscore⟩
  · rintro rfl
    exact absurd word (by decide)
  · rintro rfl
    exact absurd word (by decide)

theorem not_isAsciiLower_of_isAsciiUpper {c : Char} (upper : Text.isAsciiUpper c = true) :
    Text.isAsciiLower c = false := by
  have bounds := Text.toNat_of_isAsciiUpper upper
  exact Text.forall_ascii (fun c => Text.isAsciiUpper c = true → Text.isAsciiLower c = false)
    (by decide) (by omega) upper

theorem PathTail.respelledFrom_eq_self_iff {name : Text} (path : PathTail name) (start : Bool) :
    respelledFrom start name = name ↔
      (∀ c, name.head? = some c →
        (if start = true then Text.isAsciiLower c else Text.isAsciiUpper c) = false) ∧
      capitalsStartWords name = true := by
  induction path generalizing start with
  | nil =>
    have nothing : respelledFrom start [] = [] := by
      rw [respelledFrom, separated_nil]
      rfl
    simp [nothing, capitalsStartWords]
  | @mark c rest upper tail ih =>
    have back : respelledFrom start (':' :: ':' :: c :: rest) = ':' :: ':' :: c :: rest ↔
        respelledFrom true (c :: rest) = c :: rest := by
      rw [respelledFrom_mark]
      exact List.append_right_inj scopeMark
    have colon : Text.isAsciiLower ':' = false ∧ Text.isAsciiUpper ':' = false := by decide
    rw [back, ih true]
    simp [capitalsStartWords, colon, not_isAsciiLower_of_isAsciiUpper upper]
  | @word c rest ascii word notUnderscore tail ih =>
    have plain := plain_of_word word notUnderscore
    cases rest with
    | nil =>
      rw [respelledFrom_single ascii plain, List.cons_eq_cons, recased_eq_self_iff start ascii]
      simp [capitalsStartWords]
    | cons b others =>
      -- `b` goes on with a word, or it is the capital that starts one
      have next : (if wordStarts c b others.head? = true then Text.isAsciiLower b
          else Text.isAsciiUpper b) = false ↔
            (!Text.isAsciiUpper b || c == ':' || wordStarts c b others.head?) = true := by
        cases starts : wordStarts c b others.head? with
        | true =>
          have upper : Text.isAsciiUpper b = true := by
            simp only [wordStarts, Bool.and_eq_true] at starts
            exact starts.1
          simp [not_isAsciiLower_of_isAsciiUpper upper]
        | false => simp [plain.1]
      rw [respelledFrom_cons ascii plain, List.cons_eq_cons, recased_eq_self_iff start ascii, ih]
      simp only [List.head?_cons, Option.some.injEq, forall_eq', next, capitalsStartWords,
        Bool.and_eq_true]

theorem wordStarts_before_suffix (a b : Char) (rest : Text) :
    wordStarts a b (rest ++ controllerSuffix).head? = wordStarts a b rest.head? := by
  cases rest with
  | nil =>
    have first : (([] : Text) ++ controllerSuffix).head? = some 'C' := rfl
    have capital : Text.isAsciiLower 'C' = false := by decide
    rw [first, wordStarts, wordStarts, Option.any_some, capital]
    rfl
  | cons c others => rfl

theorem PathTail.respelledFrom_suffix {name : Text} (path : PathTail name) {stem : Text}
    (shape : name = stem ++ controllerSuffix) (nonempty : stem ≠ []) (noMark : ¬ scopeMark <:+ stem)
    (start : Bool) :
    respelledFrom start name = respelledFrom start stem ++ controllerSuffix := by
  induction path generalizing stem start with
  | nil => exact absurd (List.append_eq_nil_iff.mp shape.symm).1 nonempty
  | @mark c rest upper tail ih =>
    obtain ⟨first, back, rfl⟩ := List.exists_cons_of_ne_nil nonempty
    obtain ⟨rfl, second⟩ := List.cons_eq_cons.mp shape
    cases back with
    | nil => cases second
    | cons _ base =>
      obtain ⟨rfl, later⟩ := List.cons_eq_cons.mp second
      have some_base : base ≠ [] := by
        rintro rfl
        exact noMark List.suffix_rfl
      have noMarkLater : ¬ scopeMark <:+ base :=
        fun ends => noMark (ends.trans (List.suffix_append scopeMark base))
      rw [respelledFrom_mark, respelledFrom_mark, ih later some_base noMarkLater, List.append_assoc]
  | @word c rest ascii word notUnderscore tail ih =>
    have plain := plain_of_word word notUnderscore
    obtain ⟨first, back, rfl⟩ := List.exists_cons_of_ne_nil nonempty
    obtain ⟨rfl, later⟩ := List.cons_eq_cons.mp shape
    cases back with
    | nil =>
      -- the stem ends here, and whatever it ends with, the suffix starts a word
      have starts : wordStarts c 'C' (some 'o') = true :=
        Text.forall_ascii
          (fun c => Text.isWord c = true → c ≠ '_' → wordStarts c 'C' (some 'o') = true)
          (by decide) ascii word notUnderscore
      have alone : respelledFrom true controllerSuffix = controllerSuffix := by decide +kernel
      have whole : rest = 'C' :: "ontroller".toList := later
      rw [whole, respelledFrom_cons ascii plain, respelledFrom_single ascii plain]
      exact congrArg (recased start c :: ·) (starts ▸ alone)
    | cons b base =>
      have noMarkLater : ¬ scopeMark <:+ b :: base :=
        fun ends => noMark (ends.trans (List.suffix_cons c _))
      have rest_eq := ih later (List.cons_ne_nil b base) noMarkLater
      have whole : rest = b :: (base ++ controllerSuffix) := later
      subst whole
      rw [respelledFrom_cons ascii plain, respelledFrom_cons ascii plain, wordStarts_before_suffix,
        rest_eq, List.cons_append]

section Whole

variable {className : Text} (named : IsControllerPath className) (ascii : className.IsAscii)

include named ascii

theorem respelled_eq_respelledFrom (relative : ¬ scopeMark <+: className)
    (noUnderscore : '_' ∉ className) :
    PathTail className ∧ respelled? className = some (respelledFrom true className) := by
  obtain ⟨word, later⟩ := words_of_isConstantPath relative named.path
  have path := pathTail_of_segments ascii noUnderscore word later
  refine ⟨path, ?_⟩
  obtain ⟨stem, shape, nonempty, noMark, found⟩ := named.respelled
  rw [relativePath, Text.afterPrefix?_eq_none relative, Option.getD_none] at shape
  have inside : stem ⊆ className := shape ▸ List.subset_append_left stem controllerSuffix
  have noDash : '-' ∉ stem :=
    fun present => not_mem_path named.path (by decide) (by decide) (inside present)
  have small := (ascii.of_subset inside).separated
  rw [found, controllerClassName, underscore_eq_lower noDash, camelize_eq_camelFrom small.lower,
    Text.lower_ascii small, path.respelledFrom_suffix shape nonempty noMark true]
  rfl

theorem respelled_eq_self_iff :
    respelled? className = some className ↔
      ¬ scopeMark <+: className ∧ '_' ∉ className ∧ capitalsStartWords className = true := by
  constructor
  · intro found
    have noUnderscore := underscore_not_mem_respelled found
    have relative : ¬ scopeMark <+: className := by
      rintro ⟨tail, rfl⟩
      have bare := bare_of_respelled found
      rw [trim_path named.path, Text.afterPrefix?_append, Option.getD_some] at bare
      have length := congrArg List.length bare
      simp only [scopeMark, List.length_append, List.length_cons] at length
      omega
    obtain ⟨path, spelled⟩ := respelled_eq_respelledFrom named ascii relative noUnderscore
    have same : respelledFrom true className = className := Option.some.inj (spelled.symm.trans found)
    exact ⟨relative, noUnderscore, ((path.respelledFrom_eq_self_iff true).mp same).2⟩
  · rintro ⟨relative, noUnderscore, capitals⟩
    obtain ⟨path, spelled⟩ := respelled_eq_respelledFrom named ascii relative noUnderscore
    obtain ⟨c, rest, rfl, upper⟩ := head_of_isConstantPath relative named.path
    rw [spelled, (path.respelledFrom_eq_self_iff true).mpr ⟨?_, capitals⟩]
    intro x head
    rw [List.head?_cons, Option.some.injEq] at head
    exact head ▸ not_isAsciiLower_of_isAsciiUpper upper

end Whole

example : respelled? "Api::HTMLPagesController".toList = some "Api::HtmlPagesController".toList := by
  decide +kernel

end RouteReport
