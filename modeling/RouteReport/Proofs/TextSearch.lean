import Mathlib.Data.List.Infix
import RouteReport.Proofs.TextLaws

namespace RouteReport.Text

theorem cut?_eq_none_iff {text mark : Text} : cut? text mark = none ↔ ¬ mark <:+: text := by
  induction text with
  | nil =>
    rw [List.infix_nil]
    by_cases empty : mark = [] <;> simp [cut?, empty]
  | cons c rest ih =>
    rw [cut?, List.infix_cons_iff, not_or, ← ih]
    by_cases here : mark <+: c :: rest <;> simp [here]

theorem holds_iff {text mark : Text} : text.holds mark = true ↔ mark <:+: text := by
  rw [holds, Option.isSome_iff_ne_none, ne_eq, cut?_eq_none_iff, not_not]

theorem free_of_cut? {mark text before after : Text} (nonempty : mark ≠ [])
    (found : cut? text mark = some (before, after)) : ¬ mark <:+: before := by
  induction text generalizing before with
  | nil => simp [cut?, nonempty] at found
  | cons c rest ih =>
    by_cases here : mark <+: c :: rest
    · rw [cut?, if_pos (List.isPrefixOf_iff_prefix.mpr here), Option.some.injEq, Prod.mk.injEq] at found
      rw [← found.1, List.infix_nil]
      exact nonempty
    · obtain ⟨front, later, rfl⟩ :
          ∃ front, cut? rest mark = some (front, after) ∧ c :: front = before := by
        simpa [cut?, here] using found
      have inside : c :: front <+: c :: rest := by
        rw [append_of_cut? later, List.append_assoc, ← List.cons_append]
        exact List.prefix_append _ _
      rw [List.infix_cons_iff, not_or]
      exact ⟨fun starts => here (starts.trans inside), ih later⟩

section Ending

variable {mark body : Text} {last : Char} (ends : mark = body ++ [last]) (once : last ∉ body)

include ends once

theorem no_overlap {front after : Text} (nonempty : front ≠ []) (free : ¬ mark <+: front) :
    ¬ mark <+: front ++ (mark ++ after) := by
  intro starts
  rcases List.prefix_or_prefix_of_prefix starts (List.prefix_append front (mark ++ after)) with
    inFront | ⟨tail, whole⟩
  · exact free inFront
  · -- else an end of the mark would be a beginning of it too, and shorter than the whole
    have reaches : tail <+: mark ++ after := by
      rwa [← List.prefix_append_right_inj front, whole]
    have shorter : tail.length < mark.length := by
      have some_front := List.length_pos_iff.mpr nonempty
      rw [← whole, List.length_append]
      omega
    have inMark : tail <+: body ++ [last] :=
      ends ▸ List.prefix_of_prefix_length_le reaches (List.prefix_append _ _) shorter.le
    have inBody : tail <+: body := by
      refine (List.prefix_concat_iff.mp inMark).resolve_left ?_
      intro same
      exact shorter.ne (congrArg List.length (same.trans ends.symm))
    have some_tail : tail ≠ [] := by
      rintro rfl
      exact free (by simp [← whole])
    have ending : tail.getLast? = some last := by
      rw [← List.getLast?_append_of_ne_nil front some_tail, whole, ends, List.getLast?_concat]
    exact once (inBody.subset (List.mem_of_getLast? ending))

theorem cut?_of_free {before : Text} (after : Text) (free : ¬ mark <:+: before) :
    cut? (before ++ (mark ++ after)) mark = some (before, after) := by
  induction before with
  | nil =>
    obtain ⟨c, rest, rfl⟩ := List.exists_cons_of_ne_nil (ends ▸ List.concat_ne_nil last body)
    simp [cut?]
  | cons c rest ih =>
    rw [List.infix_cons_iff, not_or] at free
    have notHere : ¬ mark <+: c :: (rest ++ (mark ++ after)) :=
      no_overlap ends once (List.cons_ne_nil c rest) free.1
    simp [cut?, notHere, ih free.2]

end Ending

theorem cut?_singleton_eq_none_iff {mark : Char} {text : Text} :
    cut? text [mark] = none ↔ mark ∉ text := by
  rw [cut?_eq_none_iff, List.singleton_infix_iff]

theorem cut?_of_not_mem (mark : Char) (before after : Text) (clean : mark ∉ before) :
    cut? (before ++ mark :: after) [mark] = some (before, after) :=
  cut?_of_free (List.nil_append [mark]).symm List.not_mem_nil after
    (fun inside => clean ((List.singleton_infix_iff mark before).mp inside))

theorem not_mem_of_cut? {mark : Char} {text before after : Text}
    (found : cut? text [mark] = some (before, after)) : mark ∉ before := by
  rw [← List.singleton_infix_iff]
  exact free_of_cut? (List.cons_ne_nil mark []) found

theorem cut?_of_head_not_mem {before : Text} {c : Char} (absent : c ∉ before) (word after : Text) :
    cut? (before ++ (c :: word ++ after)) (c :: word) = some (before, after) := by
  induction before with
  | nil => simp [cut?]
  | cons d rest ih =>
    obtain ⟨other, later⟩ : c ≠ d ∧ c ∉ rest := by simpa using absent
    have notHere : ¬ c :: word <+: d :: (rest ++ (c :: word ++ after)) := fun starts =>
      other (List.cons_prefix_cons.mp starts).1
    rw [List.cons_append, cut?, if_neg (by rwa [List.isPrefixOf_iff_prefix]), ih later]
    rfl

theorem cutLast?_of_last_not_mem {after : Text} {c : Char} (absent : c ∉ after) (before word : Text) :
    cutLast? (before ++ (word ++ [c]) ++ after) (word ++ [c]) = some (before, after) := by
  have turned : (before ++ (word ++ [c]) ++ after).reverse =
      after.reverse ++ (c :: word.reverse ++ before.reverse) := by simp
  have mark : (word ++ [c]).reverse = c :: word.reverse := by simp
  rw [cutLast?, turned, mark, cut?_of_head_not_mem (mt List.mem_reverse.mp absent)]
  simp

theorem infix_append_cons_iff {mark front back : Text} {c : Char} (absent : c ∉ mark) :
    mark <:+: front ++ c :: back ↔ mark <:+: front ∨ mark <:+: back := by
  induction front with
  | nil =>
    have notHere : mark <+: c :: back → mark = [] := by
      rintro ⟨tail, shape⟩
      cases mark with
      | nil => rfl
      | cons d rest => exact absurd (List.cons_eq_cons.mp shape).1 (by simp_all)
    rw [List.nil_append, List.infix_cons_iff, List.infix_nil]
    refine or_congr_left ⟨notHere, ?_⟩
    rintro rfl
    exact List.nil_prefix
  | cons d rest ih =>
    rw [List.cons_append, List.infix_cons_iff, List.infix_cons_iff, ih, or_assoc]
    refine or_congr_left ⟨fun starts => prefix_of_prefix_append_cons starts absent, ?_⟩
    exact fun starts => starts.trans (List.prefix_append (d :: rest) (c :: back))

theorem cons_infix_iff {c : Char} {word front back : Text} (noFront : c ∉ front) (noBack : c ∉ back) :
    c :: word <:+: front ++ c :: back ↔ word <+: back := by
  induction front with
  | nil =>
    have notLater : ¬ c :: word <:+: back := fun inside => noBack (inside.subset List.mem_cons_self)
    rw [List.nil_append, List.infix_cons_iff, List.prefix_cons_inj]
    simp [notLater]
  | cons d rest ih =>
    have parts : c ≠ d ∧ c ∉ rest := by simpa using noFront
    have notHere : ¬ c :: word <+: d :: (rest ++ c :: back) := fun starts =>
      parts.1 (List.cons_prefix_cons.mp starts).1
    rw [List.cons_append, List.infix_cons_iff, ih parts.2]
    simp [notHere]

theorem infix_join_iff {mark : Text} {separator : Char} (nonempty : mark ≠ []) (absent : separator ∉ mark)
    (pieces : List Text) :
    mark <:+: join [separator] pieces ↔ ∃ piece ∈ pieces, mark <:+: piece := by
  induction pieces with
  | nil => simpa [join] using nonempty
  | cons piece rest ih =>
    cases rest with
    | nil => simp [join]
    | cons next others =>
      rw [join, List.append_assoc, List.singleton_append, infix_append_cons_iff absent, ih]
      simp only [List.mem_cons, exists_eq_or_imp]

theorem infix_trim_iff {mark text : Text} (nonempty : mark ≠ [])
    (first : isBlank (mark.head nonempty) = false) (last : isBlank (mark.getLast nonempty) = false) :
    mark <:+: text.trim ↔ mark <:+: text := by
  constructor
  · intro inside
    exact (inside.trans (List.rdropWhile_prefix isBlank (trimLeft text)).isInfix).trans
      (List.dropWhile_suffix isBlank).isInfix
  · rintro ⟨front, back, rfl⟩
    have begun : trimLeft (front ++ (mark ++ back)) = trimLeft front ++ (mark ++ back) := by
      obtain ⟨c, rest, rfl⟩ := List.exists_cons_of_ne_nil nonempty
      rw [trimLeft, List.dropWhile_append]
      split
      · rename_i blank
        rw [trimLeft, List.isEmpty_iff.mp blank]
        rw [List.nil_append, List.cons_append, List.dropWhile_cons_of_neg (by simpa using first)]
      · rfl
    have ended : trimRight (trimLeft front ++ mark) = trimLeft front ++ mark := by
      apply trimRight_of_getLast
      intro c ending
      rw [List.getLast?_append_of_ne_nil _ nonempty, List.getLast?_eq_some_getLast nonempty] at ending
      exact Option.some.inj ending ▸ last
    rw [trim, List.append_assoc, begun, ← List.append_assoc, trimRight, dropRightWhile_append _ _ _ ended]
    exact ⟨trimLeft front, _, rfl⟩

theorem trim_eq_nil_iff {text : Text} : text.trim = [] ↔ ∀ c ∈ text, isBlank c = true := by
  refine ⟨fun empty => ?_, trim_of_blank⟩
  rw [← List.dropWhile_eq_nil_iff]
  by_contra nonempty
  obtain ⟨c, rest, shape⟩ := List.exists_cons_of_ne_nil nonempty
  have solid := List.head?_dropWhile_not isBlank text
  rw [shape] at solid
  have begun : trimLeft text = c :: rest := shape
  rw [trim, begun] at empty
  exact dropRightWhile_ne_nil List.mem_cons_self (by simpa using solid) empty

end RouteReport.Text
