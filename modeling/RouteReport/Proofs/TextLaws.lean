import Mathlib.Data.List.DropRight
import RouteReport.Text.Blank
import RouteReport.Text.Lines

namespace RouteReport.Text

instance (priority := 2000) decidableForallMem (text : Text) (property : Char → Prop)
    [DecidablePred property] : Decidable (∀ c ∈ text, property c) :=
  List.decidableBAll property text

theorem toNat_of_isAsciiUpper {c : Char} (upper : isAsciiUpper c = true) :
    65 ≤ c.toNat ∧ c.toNat ≤ 90 := by
  simp only [isAsciiUpper, Bool.and_eq_true, decide_eq_true_eq] at upper
  exact ⟨upper.1, upper.2⟩

theorem toNat_of_isAsciiLower {c : Char} (lower : isAsciiLower c = true) :
    97 ≤ c.toNat ∧ c.toNat ≤ 122 := by
  simp only [isAsciiLower, Bool.and_eq_true, decide_eq_true_eq] at lower
  exact ⟨lower.1, lower.2⟩

theorem isDigit_of_mem_ofNat {n : Nat} {c : Char} (present : c ∈ ofNat n) : c.isDigit = true :=
  Nat.isDigit_of_mem_toDigits (by decide) (by decide) present

theorem isBlank_of_printable {c : Char} (low : 33 ≤ c.toNat) (high : c.toNat < 128) :
    isBlank c = false := by
  simp only [isBlank, Bool.or_eq_false_iff, Bool.and_eq_false_iff, decide_eq_false_iff_not,
    beq_eq_false_iff_ne]
  omega

theorem run_append (member : Char → Bool) (body rest : Text)
    (inside : ∀ c ∈ body, member c = true)
    (boundary : ∀ c, rest.head? = some c → member c = false) :
    run (body ++ rest) member = (body, rest) := by
  have stopped : rest.takeWhile member = [] ∧ rest.dropWhile member = rest := by
    cases rest with
    | nil => exact ⟨rfl, rfl⟩
    | cons c tail => simp [boundary c rfl]
  simp only [run, List.takeWhile_append_of_pos inside, List.dropWhile_append_of_pos inside,
    stopped.1, stopped.2, List.append_nil]

theorem run_eq_append (text : Text) (member : Char → Bool) :
    text = (run text member).1 ++ (run text member).2 :=
  List.takeWhile_append_dropWhile.symm

theorem mem_of_mem_run {text : Text} {member : Char → Bool} {c : Char}
    (present : c ∈ (run text member).1) : member c = true :=
  List.mem_takeWhile_imp present

theorem head_run_rest {text : Text} {member : Char → Bool} {c : Char}
    (first : (run text member).2.head? = some c) : member c = false := by
  obtain ⟨rest, shape⟩ := List.head?_eq_some_iff.mp first
  have stopped := List.head?_dropWhile_not member text
  rwa [show text.dropWhile member = c :: rest from shape] at stopped

theorem dropRightWhile_eq_rdropWhile (text : Text) (member : Char → Bool) :
    text.dropRightWhile member = List.rdropWhile member text := rfl

theorem dropRightWhile_append (front back : Text) (member : Char → Bool)
    (stop : front.dropRightWhile member = front) :
    dropRightWhile (front ++ back) member = front ++ back.dropRightWhile member := by
  have kept : front.reverse.dropWhile member = front.reverse := by
    have turned := congrArg List.reverse stop
    rwa [dropRightWhile, List.reverse_reverse] at turned
  simp only [dropRightWhile, List.reverse_append, List.dropWhile_append, kept]
  split
  · rename_i none_left
    simp [List.isEmpty_iff.mp none_left]
  · simp

theorem mem_of_mem_dropRightWhile {text : Text} {member : Char → Bool} {c : Char}
    (present : c ∈ text.dropRightWhile member) : c ∈ text :=
  (List.rdropWhile_prefix member text).subset present

theorem dropRightWhile_of_getLast {text : Text} {member : Char → Bool}
    (last : ∀ c, text.getLast? = some c → member c = false) : text.dropRightWhile member = text := by
  rw [dropRightWhile_eq_rdropWhile, List.rdropWhile_eq_self_iff]
  intro nonempty
  simp [last _ (List.getLast?_eq_some_getLast nonempty)]

theorem dropRightWhile_ne_nil {text : Text} {member : Char → Bool} {c : Char}
    (present : c ∈ text) (other : member c = false) : text.dropRightWhile member ≠ [] := by
  rw [dropRightWhile_eq_rdropWhile, ne_eq, List.rdropWhile_eq_nil_iff]
  intro all
  simp [all c present] at other

theorem dropRightWhile_dropRightWhile {wide narrow : Char → Bool}
    (wider : ∀ c, narrow c = true → wide c = true) (text : Text) :
    (text.dropRightWhile narrow).dropRightWhile wide = text.dropRightWhile wide := by
  have drops : ∀ back : Text, (back.dropWhile narrow).dropWhile wide = back.dropWhile wide := by
    intro back
    induction back with
    | nil => rfl
    | cons c rest ih =>
      cases inNarrow : narrow c with
      | true => simp [inNarrow, wider c inNarrow, ih]
      | false => simp [inNarrow]
  simp [dropRightWhile, drops]

theorem trimLeft_of_head {text : Text} (first : ∀ c, text.head? = some c → isBlank c = false) :
    trimLeft text = text := by
  cases text with
  | nil => rfl
  | cons c rest => simp [trimLeft, first c rfl]

theorem trimRight_of_getLast {text : Text}
    (last : ∀ c, text.getLast? = some c → isBlank c = false) : trimRight text = text :=
  dropRightWhile_of_getLast last

theorem trim_of_ends {text : Text} (first : ∀ c, text.head? = some c → isBlank c = false)
    (last : ∀ c, text.getLast? = some c → isBlank c = false) : trim text = text := by
  rw [trim, trimLeft_of_head first, trimRight_of_getLast last]

theorem trim_of_printable {text : Text} (printable : ∀ c ∈ text, isBlank c = false) :
    text.trim = text :=
  trim_of_ends (fun c first => printable c (List.mem_of_head? first))
    fun c last => printable c (List.mem_of_getLast? last)

theorem trim_append_singleton (text : Text) {last : Char} (solid : isBlank last = false) :
    ∃ rest, (text ++ [last] : Text).trim = rest ++ [last] := by
  have kept : ∃ rest, trimLeft (text ++ [last]) = rest ++ [last] := by
    rw [trimLeft, List.dropWhile_append]
    split
    · exact ⟨[], by simp [solid]⟩
    · exact ⟨_, rfl⟩
  obtain ⟨rest, shape⟩ := kept
  refine ⟨rest, ?_⟩
  rw [trim, shape]
  exact trimRight_of_getLast fun c found => by simp_all

theorem trimLeft_subset (text : Text) : trimLeft text ⊆ text :=
  (List.dropWhile_suffix isBlank).subset

theorem trim_sublist (text : Text) : List.Sublist text.trim text :=
  (List.rdropWhile_prefix isBlank (trimLeft text)).sublist.trans (List.dropWhile_suffix isBlank).sublist

theorem trim_subset (text : Text) : text.trim ⊆ text := (trim_sublist text).subset

theorem length_trimRight_le (text : Text) : (trimRight text).length ≤ text.length :=
  (List.rdropWhile_prefix isBlank text).length_le

theorem trimLeft_eq_self_of_trim {text : Text} (trimmed : text.trim = text) :
    trimLeft text = text := by
  apply (List.dropWhile_suffix isBlank).eq_of_length_le
  calc
    text.length = (trimRight (trimLeft text)).length := congrArg List.length trimmed.symm
    _ ≤ (trimLeft text).length := length_trimRight_le _

theorem trimLeft_append_of_blank {blanks : Text} (blank : ∀ c ∈ blanks, isBlank c = true)
    (text : Text) : trimLeft (blanks ++ text) = trimLeft text :=
  List.dropWhile_append_of_pos blank

theorem trimLeft_append (text rest : Text) : trimLeft (text ++ rest) =
    if trimLeft text = [] then trimLeft rest else trimLeft text ++ rest := by
  rw [trimLeft, List.dropWhile_append]
  simp only [List.isEmpty_iff]
  rfl

theorem trim_of_blank {text : Text} (blank : ∀ c ∈ text, isBlank c = true) :
    text.trim = [] := by
  have none_left : trimLeft text = [] := List.dropWhile_eq_nil_iff.mpr blank
  rw [trim, none_left]
  rfl

theorem trim_trimLeft (text : Text) : (trimLeft text).trim = text.trim := by
  have stays : trimLeft (trimLeft text) = trimLeft text := by
    apply trimLeft_of_head
    intro c first
    have bound := List.head?_dropWhile_not isBlank text
    rw [trimLeft] at first
    simpa [first] using bound
  rw [trim, stays, trim]

theorem takeWhile_append_trimLeft (text : Text) :
    text.takeWhile isBlank ++ trimLeft text = text :=
  List.takeWhile_append_dropWhile

theorem head_not_blank_of_trim {text : Text} (trimmed : text.trim = text) {c : Char}
    (first : text.head? = some c) : isBlank c = false := by
  have start : text.dropWhile isBlank = text := trimLeft_eq_self_of_trim trimmed
  have bound := List.head?_dropWhile_not isBlank text
  simpa only [start, first] using bound

theorem getLast_not_blank_of_trim {text : Text} (trimmed : text.trim = text) {c : Char}
    (last : text.getLast? = some c) : isBlank c = false := by
  have stop : trimRight text = text := by
    have whole := trimmed
    rwa [trim, trimLeft_eq_self_of_trim trimmed] at whole
  have bound := List.head?_dropWhile_not isBlank text.reverse
  have turned : text.reverse.dropWhile isBlank = text.reverse := by
    have flipped := congrArg List.reverse stop
    rwa [trimRight, dropRightWhile, List.reverse_reverse] at flipped
  simpa only [turned, List.head?_reverse, last] using bound

theorem trim_of_padded {text before after : Text} (nonempty : text ≠ []) (trimmed : text.trim = text)
    (blankBefore : ∀ c ∈ before, isBlank c = true) (blankAfter : ∀ c ∈ after, isBlank c = true) :
    (before ++ (text ++ after) : Text).trim = text := by
  have left : trimLeft (text ++ after) = text ++ after := by
    apply trimLeft_of_head
    intro c first
    rw [List.head?_append_of_ne_nil _ nonempty] at first
    exact head_not_blank_of_trim trimmed first
  have stop : text.dropRightWhile isBlank = text :=
    trimRight_of_getLast fun c last => getLast_not_blank_of_trim trimmed last
  have none_left : after.dropRightWhile isBlank = [] := by
    rw [dropRightWhile_eq_rdropWhile, List.rdropWhile_eq_nil_iff]
    exact blankAfter
  rw [trim, trimLeft_append_of_blank blankBefore, left, trimRight, dropRightWhile_append _ _ _ stop,
    none_left, List.append_nil]

@[simp] theorem isBlank_space : isBlank ' ' = true := rfl

theorem isBlank_of_mem_spaces {n : Nat} {c : Char} (present : c ∈ spaces n) : isBlank c = true := by
  rw [List.eq_of_mem_replicate present, isBlank_space]

theorem spaces_add (m n : Nat) : spaces (m + n) = spaces m ++ spaces n :=
  (List.replicate_append_replicate ..).symm

theorem trimLeft_spaces_append (n : Nat) (text : Text) :
    trimLeft (spaces n ++ text) = trimLeft text :=
  List.dropWhile_append_of_pos fun _ present => isBlank_of_mem_spaces present

theorem trim_withoutLineEnd {line : Text} (first : ∀ c, line.head? = some c → isBlank c = false) :
    (withoutLineEnd line).trim = trimRight line := by
  have begun : trimLeft (withoutLineEnd line) = withoutLineEnd line := by
    apply trimLeft_of_head
    intro c head
    rcases List.rdropWhile_prefix (fun c => c == '\r' || c == '\n') line with ⟨dropped, whole⟩
    have inFront : (List.rdropWhile (fun c => c == '\r' || c == '\n') line).head? = some c := head
    apply first
    rw [← whole, List.head?_append, inFront]
    rfl
  rw [trim, begun]
  apply dropRightWhile_dropRightWhile
  intro c lineEnd
  have cases : c = '\r' ∨ c = '\n' := by simpa using lineEnd
  rcases cases with rfl | rfl <;> rfl

theorem trimRight_append_spaces (text : Text) (n : Nat) :
    trimRight (text ++ spaces n) = trimRight text := by
  have turned : (text ++ spaces n).reverse = spaces n ++ text.reverse := by simp [spaces]
  simp only [trimRight, dropRightWhile, turned]
  exact congrArg List.reverse (trimLeft_spaces_append n text.reverse)

theorem prefix_of_prefix_append_cons {mark front rest : Text} {c : Char}
    (starts : mark <+: front ++ c :: rest) (absent : c ∉ mark) : mark <+: front := by
  rcases List.prefix_or_prefix_of_prefix starts (List.prefix_append front (c :: rest)) with
    inFront | ⟨tail, whole⟩
  · exact inFront
  · cases tail with
    | nil => exact ⟨[], by simpa using whole.symm⟩
    | cons d others =>
      rw [← whole, List.prefix_append_right_inj] at starts
      have same : d = c := (List.cons_prefix_cons.mp starts).1
      exact absurd (by rw [← whole, same]; simp) absent

theorem afterPrefix?_append (mark rest : Text) :
    afterPrefix? (mark ++ rest) mark = some rest := by
  simp [afterPrefix?]

theorem afterPrefix?_eq_none {text mark : Text} (other : ¬ mark <+: text) :
    afterPrefix? text mark = none := by
  simpa [afterPrefix?] using other

theorem afterPrefix?_eq_some_iff {text mark rest : Text} :
    afterPrefix? text mark = some rest ↔ text = mark ++ rest := by
  constructor
  · intro found
    by_cases starts : mark <+: text
    · obtain ⟨tail, rfl⟩ := starts
      rw [afterPrefix?_append] at found
      rw [Option.some.inj found]
    · rw [afterPrefix?_eq_none starts] at found
      cases found
  · rintro rfl
    exact afterPrefix?_append mark rest

theorem afterPrefix?_eq_some_nil {text mark : Text} : afterPrefix? text mark = some [] ↔ text = mark := by
  rw [afterPrefix?_eq_some_iff, List.append_nil]

theorem afterPrefix?_subset {text mark rest : Text} (found : afterPrefix? text mark = some rest) :
    rest ⊆ text := by
  rw [afterPrefix?_eq_some_iff.mp found]
  exact List.subset_append_right mark rest

theorem beforeSuffix?_append (text mark : Text) :
    beforeSuffix? (text ++ mark) mark = some text := by
  simp [beforeSuffix?]

theorem append_of_beforeSuffix? {text mark body : Text}
    (found : beforeSuffix? text mark = some body) : text = body ++ mark := by
  unfold beforeSuffix? at found
  split at found
  · rename_i ends
    rcases List.isSuffixOf_iff_suffix.mp ends with ⟨front, rfl⟩
    rw [← Option.some.inj found]
    simp
  · cases found

theorem mem_of_mem_beforeSuffix? {text mark body : Text} {c : Char}
    (found : beforeSuffix? text mark = some body) (present : c ∈ body) : c ∈ text := by
  rw [append_of_beforeSuffix? found]
  exact List.mem_append_left mark present

theorem splitOn_eq (text : Text) (separator : Char) :
    text.splitOn separator = List.splitOn separator text := by
  induction text with
  | nil => rfl
  | cons c rest ih =>
    rw [List.splitOn_cons_eq_if_modifyHead, splitOn, ih]
    split
    · rfl
    · cases split : List.splitOn separator rest with
      | nil => exact absurd split (List.splitOn_ne_nil _ _)
      | cons piece pieces => rfl

theorem splitOn_ne_nil (text : Text) (separator : Char) : text.splitOn separator ≠ [] := by
  rw [splitOn_eq]
  exact List.splitOn_ne_nil _ _

theorem join_eq (separator : Text) (pieces : List Text) :
    join separator pieces = separator.intercalate pieces := by
  induction pieces with
  | nil => rfl
  | cons piece rest ih =>
    cases rest with
    | nil => simp [join]
    | cons next others => rw [join, ih, List.intercalate_cons_cons]

theorem splitOn_append_cons (before after : Text) (separator : Char) :
    (before ++ separator :: after : Text).splitOn separator =
      before.splitOn separator ++ after.splitOn separator := by
  simp only [splitOn_eq, List.splitOn_append_cons_self]

theorem join_splitOn_self (text : Text) (separator : Char) :
    join [separator] (text.splitOn separator) = text := by
  rw [join_eq, splitOn_eq, List.intercalate_splitOn]

theorem splitOn_join (separator : Char) (pieces : List Text) (some_piece : pieces ≠ [])
    (clean : ∀ piece ∈ pieces, separator ∉ piece) :
    (join [separator] pieces).splitOn separator = pieces := by
  rw [splitOn_eq, join_eq]
  exact List.splitOn_intercalate separator clean some_piece

theorem join_concat {pieces : List Text} (some_piece : pieces ≠ []) (separator last : Text) :
    join separator (pieces ++ [last]) = join separator pieces ++ separator ++ last := by
  induction pieces with
  | nil => exact absurd rfl some_piece
  | cons piece rest ih =>
    cases rest with
    | nil => simp [join]
    | cons next others =>
      have later := ih (List.cons_ne_nil next others)
      rw [List.cons_append] at later
      simp [join, later]

theorem flatMap_lineFeed {pieces : List Text} (some_piece : pieces ≠ []) :
    pieces.flatMap (· ++ ['\n']) = join ['\n'] pieces ++ ['\n'] := by
  induction pieces with
  | nil => exact absurd rfl some_piece
  | cons piece rest ih =>
    cases rest with
    | nil => simp [join]
    | cons next others =>
      rw [List.flatMap_cons, ih (List.cons_ne_nil next others)]
      simp [join]

theorem mem_join {separator : Text} {pieces : List Text} {c : Char}
    (present : c ∈ join separator pieces) : c ∈ separator ∨ ∃ piece ∈ pieces, c ∈ piece := by
  induction pieces with
  | nil => cases present
  | cons piece rest ih =>
    cases rest with
    | nil => exact .inr ⟨piece, List.mem_cons_self, present⟩
    | cons next others =>
      simp only [join, List.mem_append] at present
      rcases present with (inPiece | inSeparator) | later
      · exact .inr ⟨piece, List.mem_cons_self, inPiece⟩
      · exact .inl inSeparator
      · rcases ih later with inSeparator | ⟨other, member, inOther⟩
        · exact .inl inSeparator
        · exact .inr ⟨other, List.mem_cons_of_mem _ member, inOther⟩

theorem lines_eq (text : Text) :
    lines text =
      if (text.splitOn '\n').getLast? = some [] then (text.splitOn '\n').dropLast
      else text.splitOn '\n' := by
  unfold lines
  generalize text.splitOn '\n' = pieces
  induction pieces using List.reverseRecOn with
  | nil => rfl
  | append_singleton front last =>
    cases last with
    | nil => simp
    | cons c rest => simp

theorem splitOn_of_not_mem (separator : Char) (text : Text) (clean : separator ∉ text) :
    text.splitOn separator = [text] := by
  rw [splitOn_eq]
  exact List.splitOn_eq_singleton clean

theorem not_mem_of_splitOn_eq_singleton {text piece : Text} {separator : Char}
    (single : text.splitOn separator = [piece]) : separator ∉ text := by
  intro present
  obtain ⟨before, after, rfl⟩ := List.append_of_mem present
  rw [splitOn_append_cons] at single
  have counted := congrArg List.length single
  have first := List.length_pos_iff.mpr (splitOn_ne_nil before separator)
  have second := List.length_pos_iff.mpr (splitOn_ne_nil after separator)
  rw [List.length_append, List.length_singleton] at counted
  omega

theorem lines_singleton (line : Text) (clean : '\n' ∉ line) (nonempty : line ≠ []) :
    lines line = [line] := by
  simp [lines_eq, splitOn_of_not_mem '\n' line clean, nonempty]

theorem lines_cons (line rest : Text) (clean : '\n' ∉ line) :
    lines (line ++ '\n' :: rest) = line :: lines rest := by
  have pieces : (line ++ '\n' :: rest : Text).splitOn '\n' = line :: rest.splitOn '\n' := by
    simp only [splitOn_eq]
    exact List.splitOn_append_cons_self_of_not_mem clean rest
  rw [lines_eq, lines_eq, pieces, List.getLast?_cons_of_ne_nil (splitOn_ne_nil rest '\n'),
    List.dropLast_cons_of_ne_nil (splitOn_ne_nil rest '\n')]
  split <;> rfl

end RouteReport.Text
