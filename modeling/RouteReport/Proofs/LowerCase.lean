import RouteReport.Proofs.TextSearch
import RouteReport.Text.Case

/-! Lower case of a text within a longer one. Only a sigma looks at its neighbours, to take its final form
where a word ends. So a text can become something else within a longer one only by a sigma at one of its
ends, and then it does so in some text. -/

namespace RouteReport.Text

def lowerWithin (before : Text) : Text → Text → Text
  | [], _ => []
  | c :: rest, after => lowerBetween before c (rest ++ after) ++ lowerWithin (c :: before) rest after

theorem lowerAfter_append (before text after : Text) :
    lowerAfter before (text ++ after) =
      lowerWithin before text after ++ lowerAfter (text.reverse ++ before) after := by
  induction text generalizing before with
  | nil => rfl
  | cons c rest ih =>
    rw [List.cons_append, lowerAfter, lowerWithin, ih, List.append_assoc, List.reverse_cons,
      List.append_assoc, List.singleton_append]

theorem lowerAfter_eq_lowerWithin (before text : Text) : lowerAfter before text = lowerWithin before text [] := by
  have whole := lowerAfter_append before text []
  rwa [List.append_nil, lowerAfter, List.append_nil] at whole

def endsWord (before after : Text) : Bool := nextIsCased before && !nextIsCased after

theorem lowerBetween_sigma (before after : Text) :
    lowerBetween before 'Σ' after = [if endsWord before after then 'ς' else 'σ'] := rfl

theorem lowerBetween_congr {before after otherBefore otherAfter : Text} {c : Char}
    (same : c = 'Σ' → endsWord before after = endsWord otherBefore otherAfter) :
    lowerBetween before c after = lowerBetween otherBefore c otherAfter := by
  by_cases sigma : c = 'Σ'
  · rw [sigma, lowerBetween_sigma, lowerBetween_sigma, same sigma]
  · have other : (c == 'Σ') = false := by simpa using sigma
    simp only [lowerBetween, other, Bool.false_eq_true, ↓reduceIte]

theorem lowerWithin_congr {text before after otherBefore otherAfter : Text}
    (same : ∀ front back, text = front ++ 'Σ' :: back →
      endsWord (front.reverse ++ before) (back ++ after) =
        endsWord (front.reverse ++ otherBefore) (back ++ otherAfter)) :
    lowerWithin before text after = lowerWithin otherBefore text otherAfter := by
  induction text generalizing before otherBefore with
  | nil => rfl
  | cons c rest ih =>
    have here : lowerBetween before c (rest ++ after) = lowerBetween otherBefore c (rest ++ otherAfter) :=
      lowerBetween_congr fun sigma => same [] rest (by rw [sigma]; rfl)
    have later : lowerWithin (c :: before) rest after = lowerWithin (c :: otherBefore) rest otherAfter := by
      apply ih
      intro front back shape
      simpa using same (c :: front) back (by rw [shape]; rfl)
    rw [lowerWithin, lowerWithin, here, later]

theorem isCaseIgnorable_sigma : isCaseIgnorable 'Σ' = false := by decide +kernel

theorem nextIsCased_append_of_ignorable {front : Text} (ignorable : ∀ c ∈ front, isCaseIgnorable c = true)
    (rest : Text) : nextIsCased (front ++ rest) = nextIsCased rest := by
  rw [nextIsCased, List.dropWhile_append_of_pos ignorable, nextIsCased]

theorem nextIsCased_of_ignorable {text : Text} (ignorable : ∀ c ∈ text, isCaseIgnorable c = true) :
    nextIsCased text = false := by
  have whole := nextIsCased_append_of_ignorable ignorable []
  rw [List.append_nil] at whole
  exact whole

theorem nextIsCased_append_of_mem {front : Text} {c : Char} (present : c ∈ front)
    (decided : isCaseIgnorable c = false) (rest : Text) :
    nextIsCased (front ++ rest) = nextIsCased front := by
  have some_left : front.dropWhile isCaseIgnorable ≠ [] := by
    intro empty
    rw [List.dropWhile_eq_nil_iff.mp empty c present] at decided
    cases decided
  rw [nextIsCased, nextIsCased, List.dropWhile_append, if_neg (by simpa using some_left),
    List.head?_append_of_ne_nil _ some_left]

theorem ignorable_or_decided (text : Text) : (∀ c ∈ text, isCaseIgnorable c = true) ∨
    ∀ rest, nextIsCased (text ++ rest) = nextIsCased text := by
  by_cases decides : ∃ c ∈ text, isCaseIgnorable c = false
  · rcases decides with ⟨c, present, decided⟩
    exact .inr (nextIsCased_append_of_mem present decided)
  · exact .inl (by simpa using decides)

theorem nextIsCased_append_sigma (front rest : Text) :
    nextIsCased (front ++ 'Σ' :: rest) = nextIsCased (front ++ ['Σ']) := by
  rw [← List.singleton_append, ← List.append_assoc]
  exact nextIsCased_append_of_mem (by simp) isCaseIgnorable_sigma rest

theorem sigma_not_mem_of_ignorable {text : Text} (ignorable : ∀ c ∈ text, isCaseIgnorable c = true) :
    'Σ' ∉ text := by
  intro present
  have skipped := ignorable 'Σ' present
  rw [isCaseIgnorable_sigma] at skipped
  cases skipped

/-- A sigma before which no letter stands, and no letter follows at once, would end a word after a letter. -/
def awaitsLetter (text : Text) : Bool :=
  match text.dropWhile isCaseIgnorable with
  | c :: back => c == 'Σ' && !nextIsCased back
  | [] => false

/-- A sigma that ends a word at the end of the text would not do so before a letter. -/
def awaitsEnd (text : Text) : Bool :=
  match text.reverse.dropWhile isCaseIgnorable with
  | c :: front => c == 'Σ' && nextIsCased front
  | [] => false

/-- No sigma of the text takes its form from what stands around the text. -/
def SettledCase (text : Text) : Prop := awaitsLetter text = false ∧ awaitsEnd text = false

instance (text : Text) : Decidable text.SettledCase :=
  inferInstanceAs (Decidable (_ ∧ _))

theorem dropWhile_eq_cons_iff {text back : Text} {c : Char} {skip : Char → Bool} :
    text.dropWhile skip = c :: back ↔
      ∃ front, text = front ++ c :: back ∧ (∀ d ∈ front, skip d = true) ∧ skip c = false := by
  constructor
  · intro shape
    have stopped := List.head?_dropWhile_not skip text
    rw [shape] at stopped
    refine ⟨text.takeWhile skip, ?_, fun d present => List.mem_takeWhile_imp present, by simpa using stopped⟩
    rw [← shape, List.takeWhile_append_dropWhile]
  · rintro ⟨front, rfl, skipped, kept⟩
    rw [List.dropWhile_append_of_pos skipped, List.dropWhile_cons_of_neg (by simp [kept])]

theorem awaitsLetter_iff {text : Text} :
    awaitsLetter text = true ↔ ∃ front back, text = front ++ 'Σ' :: back ∧
      (∀ c ∈ front, isCaseIgnorable c = true) ∧ nextIsCased back = false := by
  constructor
  · intro awaits
    unfold awaitsLetter at awaits
    split at awaits
    · rename_i c back shape
      simp only [Bool.and_eq_true, beq_iff_eq, Bool.not_eq_true'] at awaits
      rcases dropWhile_eq_cons_iff.mp shape with ⟨front, whole, ignorable, _⟩
      exact ⟨front, back, awaits.1 ▸ whole, ignorable, awaits.2⟩
    · cases awaits
  · rintro ⟨front, back, whole, ignorable, noLetter⟩
    have shape := dropWhile_eq_cons_iff.mpr ⟨front, whole, ignorable, isCaseIgnorable_sigma⟩
    simp [awaitsLetter, shape, noLetter]

theorem awaitsEnd_iff {text : Text} :
    awaitsEnd text = true ↔ ∃ front back, text = front ++ 'Σ' :: back ∧
      (∀ c ∈ back, isCaseIgnorable c = true) ∧ nextIsCased front.reverse = true := by
  constructor
  · intro awaits
    unfold awaitsEnd at awaits
    split at awaits
    · rename_i c front shape
      simp only [Bool.and_eq_true, beq_iff_eq] at awaits
      rcases dropWhile_eq_cons_iff.mp shape with ⟨back, whole, ignorable, _⟩
      refine ⟨front.reverse, back.reverse, ?_, by simpa using ignorable, by simpa using awaits.2⟩
      simpa [awaits.1] using congrArg List.reverse whole
    · cases awaits
  · rintro ⟨front, back, whole, ignorable, letter⟩
    have turned : text.reverse = back.reverse ++ 'Σ' :: front.reverse := by simp [whole]
    have shape := dropWhile_eq_cons_iff.mpr
      ⟨back.reverse, turned, by simpa using ignorable, isCaseIgnorable_sigma⟩
    simp [awaitsEnd, shape, letter]

theorem settledCase_of_not_mem {text : Text} (noSigma : 'Σ' ∉ text) : text.SettledCase := by
  constructor
  · rw [Bool.eq_false_iff]
    intro awaits
    rcases awaitsLetter_iff.mp awaits with ⟨front, back, rfl, _⟩
    simp at noSigma
  · rw [Bool.eq_false_iff]
    intro awaits
    rcases awaitsEnd_iff.mp awaits with ⟨front, back, rfl, _⟩
    simp at noSigma

theorem endsWord_of_settled {text front back : Text} (settled : text.SettledCase)
    (whole : text = front ++ 'Σ' :: back) (before after : Text) :
    endsWord (front.reverse ++ before) (back ++ after) = endsWord front.reverse back := by
  rcases ignorable_or_decided front.reverse with opening | sameBefore
  · -- no word ends here, since a letter follows
    have letter : nextIsCased back = true := by
      by_contra noLetter
      have awaits := awaitsLetter_iff.mpr
        ⟨front, back, whole, by simpa using opening, by simpa using noLetter⟩
      rw [settled.1] at awaits
      cases awaits
    rcases ignorable_or_decided back with noneDecides | sameAfter
    · rw [nextIsCased_of_ignorable noneDecides] at letter
      cases letter
    · simp [endsWord, sameAfter, letter]
  · rcases ignorable_or_decided back with closing | sameAfter
    · -- no word ends here, since no letter stands before
      have noLetter : nextIsCased front.reverse = false := by
        rw [Bool.eq_false_iff]
        intro letter
        have awaits := awaitsEnd_iff.mpr ⟨front, back, whole, closing, letter⟩
        rw [settled.2] at awaits
        cases awaits
      simp [endsWord, sameBefore, noLetter]
    · rw [endsWord, endsWord, sameBefore, sameAfter]

theorem lowerWithin_of_settled {text : Text} (settled : text.SettledCase) (before after : Text) :
    lowerWithin before text after = lower text := by
  rw [lower, lowerAfter_eq_lowerWithin]
  apply lowerWithin_congr
  intro front back whole
  rw [endsWord_of_settled settled whole before after, List.append_nil, List.append_nil]

theorem lower_infix_of_settled {text wider : Text} (settled : text.SettledCase) (inside : text <:+: wider) :
    lower text <:+: lower wider := by
  rcases inside with ⟨front, back, rfl⟩
  refine ⟨lowerWithin [] front (text ++ back), lowerAfter (text.reverse ++ front.reverse) back, ?_⟩
  calc
    lowerWithin [] front (text ++ back) ++ lower text ++ lowerAfter (text.reverse ++ front.reverse) back
        = lowerWithin [] front (text ++ back) ++ lowerAfter front.reverse (text ++ back) := by
          rw [lowerAfter_append, lowerWithin_of_settled settled, List.append_assoc]
    _ = lower (front ++ text ++ back) := by
          rw [lower, List.append_assoc, lowerAfter_append [] front, List.append_nil]

theorem not_infix_of_exchanged {before body rest after : Text} {c d : Char} (different : c ≠ d)
    (noBefore : c ∉ before) (noAfter : c ∉ after) :
    ¬ body ++ c :: rest <:+: before ++ (body ++ d :: rest) ++ after := by
  intro inside
  have counted := inside.sublist.count_le c
  have inBefore := List.count_eq_zero.mpr noBefore
  have inAfter := List.count_eq_zero.mpr noAfter
  simp only [List.count_append, List.count_cons_self, List.count_cons_of_ne different.symm, inBefore,
    inAfter] at counted
  omega

theorem lower_sigma (front back : Text) :
    lower (front ++ 'Σ' :: back) = lowerWithin [] front ('Σ' :: back) ++
      (if endsWord front.reverse back then 'ς' else 'σ') :: lowerAfter ('Σ' :: front.reverse) back := by
  rw [lower, lowerAfter_append, List.append_nil, lowerAfter, lowerBetween_sigma, List.singleton_append]

theorem lowerWithin_before_sigma (before text back otherBack : Text) :
    lowerWithin before text ('Σ' :: back) = lowerWithin before text ('Σ' :: otherBack) := by
  apply lowerWithin_congr
  intro front rest _
  rw [endsWord, endsWord, nextIsCased_append_sigma rest, nextIsCased_append_sigma rest otherBack]

theorem lowerAfter_after_sigma (before otherBefore text : Text) :
    lowerAfter ('Σ' :: before) text = lowerAfter ('Σ' :: otherBefore) text := by
  rw [lowerAfter_eq_lowerWithin, lowerAfter_eq_lowerWithin]
  apply lowerWithin_congr
  intro front rest _
  rw [endsWord, endsWord, nextIsCased_append_sigma front.reverse,
    nextIsCased_append_sigma front.reverse otherBefore]

theorem lowerWithin_of_not_mem {text : Text} (noSigma : 'Σ' ∉ text) (before after otherBefore otherAfter : Text) :
    lowerWithin before text after = lowerWithin otherBefore text otherAfter := by
  apply lowerWithin_congr
  rintro front back rfl
  simp at noSigma

theorem unsettled_of_awaitsLetter {text : Text} (awaits : awaitsLetter text = true) :
    ¬ lower text <:+: lower ('a' :: text) := by
  rcases awaitsLetter_iff.mp awaits with ⟨front, back, rfl, ignorable, noLetter⟩
  have noSigma := sigma_not_mem_of_ignorable ignorable
  have turned : ∀ c ∈ front.reverse, isCaseIgnorable c = true := by simpa using ignorable
  have within : endsWord front.reverse back = false := by
    rw [endsWord, nextIsCased_of_ignorable turned, Bool.false_and]
  have final : endsWord ('a' :: front).reverse back = true := by
    rw [endsWord, noLetter, List.reverse_cons, nextIsCased_append_of_ignorable turned]
    decide
  have wider : lower ('a' :: (front ++ 'Σ' :: back)) =
      ['a'] ++ (lowerWithin [] front ('Σ' :: back) ++ 'ς' :: lowerAfter ('Σ' :: front.reverse) back) ++
        [] := by
    have letter : lowerBetween [] 'a' (front ++ 'Σ' :: back) = ['a'] := rfl
    rw [← List.cons_append, lower_sigma, final, lowerWithin, letter,
      lowerWithin_of_not_mem noSigma ['a'] _ [] ('Σ' :: back), lowerAfter_after_sigma _ front.reverse]
    simp
  rw [lower_sigma, within, wider]
  exact not_infix_of_exchanged (by decide) (by decide) (by decide)

theorem unsettled_of_awaitsEnd {text : Text} (awaits : awaitsEnd text = true) :
    ¬ lower text <:+: lower (text ++ ['a']) := by
  rcases awaitsEnd_iff.mp awaits with ⟨front, back, rfl, ignorable, letter⟩
  have noSigma := sigma_not_mem_of_ignorable ignorable
  have final : endsWord front.reverse back = true := by
    rw [endsWord, letter, nextIsCased_of_ignorable ignorable, Bool.true_and, Bool.not_false]
  have within : endsWord front.reverse (back ++ ['a']) = false := by
    rw [endsWord, letter, nextIsCased_append_of_ignorable ignorable]
    decide
  have wider : lower ((front ++ 'Σ' :: back) ++ ['a']) =
      [] ++ (lowerWithin [] front ('Σ' :: back) ++ 'σ' :: lowerAfter ('Σ' :: front.reverse) back) ++
        ['a'] := by
    have ending : lowerAfter (back.reverse ++ 'Σ' :: front.reverse) ['a'] = ['a'] := rfl
    rw [List.append_assoc, List.cons_append, lower_sigma, within, lowerAfter_append, ending,
      lowerWithin_before_sigma [] front _ back, lowerAfter_eq_lowerWithin _ back,
      lowerWithin_of_not_mem noSigma _ ['a'] ('Σ' :: front.reverse) []]
    simp
  rw [lower_sigma, final, wider]
  exact not_infix_of_exchanged (by decide) (by decide) (by decide)

theorem lower_infix_iff {text : Text} :
    (∀ wider, text <:+: wider → lower text <:+: lower wider) ↔ text.SettledCase := by
  constructor
  · intro always
    constructor
    · rw [Bool.eq_false_iff]
      intro awaits
      exact unsettled_of_awaitsLetter awaits (always _ (List.suffix_cons 'a' text).isInfix)
    · rw [Bool.eq_false_iff]
      intro awaits
      exact unsettled_of_awaitsEnd awaits (always _ (List.prefix_append text ['a']).isInfix)
  · intro settled wider inside
    exact lower_infix_of_settled settled inside

end RouteReport.Text
