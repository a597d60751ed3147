import RouteReport.Proofs.Naming.AsciiCase

/-! The marks that join the words and segments of names. Case mapping in full neither makes nor loses
one, so a class name that has gone through the name of its controller has its colons again, and has
lost its underscores. -/

namespace RouteReport

namespace Text

def nameMarks : Text := [':', '/', '_']

instance (property : Char → Prop) [DecidablePred property] :
    Decidable (∀ mark ∈ nameMarks, property mark) :=
  List.decidableBAll property nameMarks

theorem toNat_of_mem_nameMarks {mark : Char} (marked : mark ∈ nameMarks) :
    0 < mark.toNat ∧ mark.toNat < 128 := by
  have all : ∀ mark ∈ nameMarks, 0 < mark.toNat ∧ mark.toNat < 128 := by decide
  exact all mark marked

theorem toNat_ofNat (n : Nat) : (Char.ofNat n).toNat = n ∨ (Char.ofNat n).toNat = 0 := by
  by_cases valid : n.isValidChar
  · left
    rw [Char.ofNat, dif_pos valid]
    rfl
  · right
    rw [Char.ofNat, dif_neg valid]
    rfl

def SpareMarks (runs : List CaseRun) : Prop :=
  ∀ run ∈ runs, ∀ mark ∈ nameMarks,
    mark.toNat < run.image ∨ run.image + (run.last - run.first) < mark.toNat

instance (runs : List CaseRun) : Decidable (SpareMarks runs) :=
  List.decidableBAll (fun run : CaseRun => ∀ mark ∈ nameMarks,
    mark.toNat < run.image ∨ run.image + (run.last - run.first) < mark.toNat) runs

theorem spareMarks_lowerRuns : SpareMarks lowerRuns := by decide +kernel

theorem spareMarks_upperRuns : SpareMarks upperRuns := by decide +kernel

theorem imageIn_ne_mark {runs : List CaseRun} (spare : SpareMarks runs) {mark c : Char}
    (marked : mark ∈ nameMarks) (wide : ¬ c.toNat < 128) : imageIn runs c ≠ mark := by
  obtain ⟨positive, small⟩ := toNat_of_mem_nameMarks marked
  unfold imageIn
  split
  · rename_i run found
    have inRun := List.find?_some found
    simp only [CaseRun.contains, Bool.and_eq_true, decide_eq_true_eq] at inRun
    have apart := spare run (List.mem_of_find?_eq_some found) mark marked
    rintro rfl
    have number := toNat_ofNat (run.image + (c.toNat - run.first))
    omega
  · rintro rfl
    exact wide small

theorem not_mem_of_sequenceIn? {sequences : List (Nat × List Nat)}
    (spare : ∀ entry ∈ sequences, ∀ mark ∈ nameMarks, mark ∉ entry.2.map Char.ofNat)
    {mark c : Char} (marked : mark ∈ nameMarks) {sequence : Text}
    (found : sequenceIn? sequences c = some sequence) : mark ∉ sequence := by
  obtain ⟨codes, hit, rfl⟩ := Option.map_eq_some_iff.mp found
  obtain ⟨front, back, shape, _⟩ := List.lookup_eq_some_iff.mp hit
  exact spare (c.toNat, codes) (by simp [shape]) mark marked

section Mark

variable {mark : Char} (marked : mark ∈ nameMarks)

include marked

theorem count_of_wide {c : Char} {image : Text} (wide : ¬ c.toNat < 128) (clean : mark ∉ image) :
    image.count mark = [c].count mark := by
  have other : c ≠ mark := by
    rintro rfl
    exact wide (toNat_of_mem_nameMarks marked).2
  rw [List.count_eq_zero.mpr clean, List.count_singleton]
  simp [other]

theorem count_lowerBetween (before : Text) (c : Char) (after : Text) :
    (lowerBetween before c after).count mark = [c].count mark := by
  unfold lowerBetween
  by_cases small : c.toNat < 128
  · rw [if_pos small]
    exact forall_ascii (fun c => ∀ mark ∈ nameMarks,
      [if isAsciiUpper c then Char.ofNat (c.toNat + 32) else c].count mark = [c].count mark)
      (by decide) small mark marked
  · rw [if_neg small]
    apply count_of_wide marked small
    -- sigma and the dotted capital stand outside the table of runs
    have sigma : ∀ mark ∈ nameMarks, mark ≠ 'ς' ∧ mark ≠ 'σ' ∧ mark ∉ ['i', '\u0307'] := by decide
    obtain ⟨noFinal, noSigma, noDot⟩ := sigma mark marked
    split
    · split <;> simp [noFinal, noSigma]
    · split
      · exact noDot
      · simpa using (imageIn_ne_mark spareMarks_lowerRuns marked small).symm

theorem count_lowerAfter (before text : Text) :
    (lowerAfter before text).count mark = text.count mark := by
  induction text generalizing before with
  | nil => rfl
  | cons c rest ih =>
    rw [lowerAfter, List.count_append, count_lowerBetween marked, ih, ← List.count_append,
      List.singleton_append]

theorem count_lower (text : Text) : text.lower.count mark = text.count mark :=
  count_lowerAfter marked [] text

theorem count_titleChar (c : Char) : (titleChar c).count mark = [c].count mark := by
  have upperSpare : ∀ entry ∈ upperSequences, ∀ mark ∈ nameMarks, mark ∉ entry.2.map Char.ofNat := by
    decide
  have titleSpare : ∀ entry ∈ titleSequences, ∀ mark ∈ nameMarks, mark ∉ entry.2.map Char.ofNat := by
    decide +kernel
  unfold titleChar upperChar
  by_cases small : c.toNat < 128
  · rw [if_pos small, if_pos small]
    exact forall_ascii (fun c => ∀ mark ∈ nameMarks,
      [if isAsciiLower c then Char.ofNat (c.toNat - 32) else c].count mark = [c].count mark)
      (by decide) small mark marked
  · rw [if_neg small, if_neg small]
    apply count_of_wide marked small
    cases title : sequenceIn? titleSequences c with
    | some sequence => exact not_mem_of_sequenceIn? titleSpare marked title
    | none =>
      cases upper : sequenceIn? upperSequences c with
      | some sequence => exact not_mem_of_sequenceIn? upperSpare marked upper
      | none => simpa using (imageIn_ne_mark spareMarks_upperRuns marked small).symm

theorem count_capitalize (text : Text) : text.capitalize.count mark = text.count mark := by
  cases text with
  | nil => rfl
  | cons c rest =>
    rw [capitalize, List.count_append, count_titleChar marked, count_lowerAfter marked,
      ← List.count_append, List.singleton_append]

end Mark

theorem join_splitOn (image text : Text) (separator : Char) :
    join image (text.splitOn separator) =
      text.flatMap fun c => if c = separator then image else [c] := by
  simpa using join_map_splitOn text image separator fun c => [c]

theorem not_mem_of_mem_splitOn {text piece : Text} {separator : Char}
    (member : piece ∈ text.splitOn separator) : separator ∉ piece := by
  intro present
  have inside : separator ∈ join [] (text.splitOn separator) := subset_join [] member present
  rw [join_splitOn] at inside
  rcases List.mem_flatMap.mp inside with ⟨c, _, image⟩
  split at image
  · cases image
  · rename_i other
    exact other (List.mem_singleton.mp image).symm

theorem count_join_splitOn {mark separator : Char} (other : mark ≠ separator) (image text : Text) :
    (join image (text.splitOn separator)).count mark =
      text.count mark + text.count separator * image.count mark := by
  rw [join_splitOn]
  induction text with
  | nil => simp
  | cons c rest ih =>
    rw [List.flatMap_cons, List.count_append, ih]
    by_cases here : c = separator
    · subst here
      rw [if_pos rfl, List.count_cons_self, List.count_cons_of_ne other.symm, Nat.succ_mul]
      omega
    · simp only [if_neg here, List.count_cons_of_ne here, List.count_cons, List.count_nil]
      omega

theorem count_join_map {mark : Char} {change : Text → Text}
    (kept : ∀ piece, (change piece).count mark = piece.count mark) (separator : Text)
    (pieces : List Text) :
    (join separator (pieces.map change)).count mark = (join separator pieces).count mark := by
  induction pieces with
  | nil => rfl
  | cons first rest ih =>
    cases rest with
    | nil => exact kept first
    | cons next others =>
      have later : (join separator (change next :: others.map change)).count mark =
          (join separator (next :: others)).count mark := ih
      simp only [List.map_cons, join, List.count_append, kept first, later]

end Text

theorem count_separateWords {mark : Char} (other : mark ≠ '_') (camel : Text) :
    (separateWords camel).count mark = camel.count mark := by
  induction camel with
  | nil => rfl
  | cons a rest ih =>
    cases rest with
    | nil => rfl
    | cons b rest =>
      have whole : (a :: b :: rest).count mark =
          [a].count mark + (separateWords (b :: rest)).count mark := by
        rw [ih, ← List.count_append, List.singleton_append]
      rw [whole, separateWords]
      split <;> simp [List.count_cons, other.symm, Nat.add_comm]

def colonWeight (text : Text) : Nat := text.count ':' + 2 * text.count '/'

theorem colonWeight_replaceAll (text : Text) :
    colonWeight (text.replaceAll scopeMark ['/']) = colonWeight text := by
  fun_induction Text.replaceAll text scopeMark ['/'] with
  | case1 => rfl
  | case2 c rest marked ih =>
    rcases exists_of_marked marked with ⟨rfl, tail, rfl⟩
    have dropped : (':' :: tail).drop (scopeMark.length - 1) = tail := rfl
    rw [dropped] at ih ⊢
    have colons : [':', ':'].count ':' = 2 ∧ [':', ':'].count '/' = 0 ∧ ['/'].count ':' = 0 ∧
        ['/'].count '/' = 1 := by decide
    have shape : ':' :: ':' :: tail = [':', ':'] ++ tail := rfl
    rw [shape]
    simp only [colonWeight, List.count_append] at ih ⊢
    omega
  | case3 c rest _ ih =>
    simp only [colonWeight, List.count_cons] at ih ⊢
    omega

theorem colonWeight_underscore (camel : Text) : colonWeight (underscore camel) = colonWeight camel := by
  have dashes {mark : Char} (marked : mark = ':' ∨ mark = '/') :
      ((separateWords camel).map fun c => if c == '-' then '_' else c).count mark = camel.count mark := by
    have other : mark ≠ '-' ∧ mark ≠ '_' := by rcases marked with rfl | rfl <;> decide
    rw [← count_separateWords other.2 camel, List.count_eq_countP, List.count_eq_countP,
      List.countP_map]
    apply List.countP_congr
    intro c _
    by_cases dash : c = '-' <;> simp [dash, other.1.symm, other.2.symm]
  calc
    colonWeight (underscore camel) = colonWeight (Text.replaceAll
        ((separateWords camel).map fun c => if c == '-' then '_' else c) scopeMark ['/']) := by
      rw [underscore, colonWeight, Text.count_lower (by decide), Text.count_lower (by decide),
        colonWeight]
    _ = colonWeight ((separateWords camel).map fun c => if c == '-' then '_' else c) :=
      colonWeight_replaceAll _
    _ = colonWeight camel := by
      rw [colonWeight, dashes (.inl rfl), dashes (.inr rfl), colonWeight]

theorem count_camelizeSegment {mark : Char} (marked : mark ∈ Text.nameMarks) (other : mark ≠ '_')
    (segment : Text) : (camelizeSegment segment).count mark = segment.count mark := by
  calc
    (camelizeSegment segment).count mark =
        (Text.join [] ((segment.splitOn '_').map Text.capitalize)).count mark := by
      rw [Text.join_nil, camelizeSegment, List.flatMap]
    _ = (Text.join [] (segment.splitOn '_')).count mark :=
      Text.count_join_map (Text.count_capitalize marked) [] _
    _ = segment.count mark := by
      rw [Text.count_join_splitOn other, List.count_nil, Nat.mul_zero, Nat.add_zero]

theorem count_colon_camelize (snake : Text) : (camelize snake).count ':' = colonWeight snake := by
  rw [camelize, Text.count_join_map (count_camelizeSegment (by decide) (by decide)),
    Text.count_join_splitOn (by decide), colonWeight]
  exact congrArg (snake.count ':' + ·) (Nat.mul_comm _ _)

theorem underscore_not_mem_controllerClassName (controller : Text) :
    '_' ∉ controllerClassName controller := by
  intro present
  rcases List.mem_append.mp present with inCamel | inSuffix
  · rcases Text.mem_join inCamel with inMark | ⟨segment, member, inSegment⟩
    · exact absurd inMark (by decide)
    · obtain ⟨source, _, rfl⟩ := List.mem_map.mp member
      obtain ⟨word, cut, inWord⟩ := List.mem_flatMap.mp inSegment
      rw [← List.count_pos_iff, Text.count_capitalize (by decide), List.count_pos_iff] at inWord
      exact Text.not_mem_of_mem_splitOn cut inWord
  · exact absurd inSuffix (by decide)

end RouteReport
