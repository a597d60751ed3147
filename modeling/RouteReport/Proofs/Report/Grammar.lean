import Mathlib.Data.Option.Basic
import RouteReport.Proofs.TextLaws
import RouteReport.Report.Line

/-! The grammar of a line with columns: blanks, a name, blanks, verbs, blanks, a path, blanks and a rest,
where the name and the verbs may be absent. A line on which no line feed stands has columns just when it
can be written in this way. -/

namespace RouteReport

namespace Columns

structure IsGap (gap : Text) : Prop where
  nonempty : gap ≠ []
  blank : ∀ c ∈ gap, Text.isBlank c = true

/-- The end of a line, from its path on. -/
structure Ending where
  path : Text
  afterPath : Text
  rest : Text
  path_nonempty : path ≠ []
  path_solid : ∀ c ∈ path, Text.isBlank c = false
  path_apart : IsGap afterPath
  rest_nonempty : rest ≠ []

def Ending.text (ending : Ending) : Text := ending.path ++ (ending.afterPath ++ ending.rest)

/-- What follows the name. Without verbs, the blanks on both sides of them are one gap. -/
structure Remainder extends Ending where
  afterName : Text
  verbs : Text
  afterVerbs : Text
  afterName_blank : ∀ c ∈ afterName, Text.isBlank c = true
  verbs_chars : ∀ c ∈ verbs, isVerbChar c = true
  verbs_apart : IsGap afterVerbs

def Remainder.text (remainder : Remainder) : Text :=
  remainder.afterName ++ (remainder.verbs ++ (remainder.afterVerbs ++ remainder.toEnding.text))

/-- A line in parts. -/
structure Parts extends Remainder where
  indent : Text
  name : Text
  indent_blank : ∀ c ∈ indent, Text.isBlank c = true
  name_chars : ∀ c ∈ name, isNameChar c = true

namespace Parts

def line (parts : Parts) : Text := parts.indent ++ (parts.name ++ parts.toRemainder.text)

/-- The columns that the parts give; the rest loses the white space around it. -/
def columns (parts : Parts) : Columns := ⟨parts.name, parts.verbs, parts.path, parts.rest.trim⟩

/-- The parts have a name if any parts of the line have one, and verbs if any with that name have some. -/
structure Preferred (parts : Parts) : Prop where
  name : ∀ other : Parts, other.line = parts.line → other.name ≠ [] → parts.name ≠ []
  verbs : ∀ other : Parts, other.line = parts.line → other.name = parts.name → other.verbs ≠ [] →
    parts.verbs ≠ []

end Parts

/-- A stretch between two others that no character of its kind borders on. -/
structure IsRun (member : Char → Bool) (before body after : Text) : Prop where
  inside : ∀ c ∈ body, member c = true
  left : ∀ c, before.getLast? = some c → member c = false
  right : ∀ c, after.head? = some c → member c = false

theorem isBlank_of_isNameChar {c : Char} (member : isNameChar c = true) : Text.isBlank c = false := by
  simp only [isNameChar, Text.isAsciiLower, Text.isAsciiDigit, Bool.or_eq_true, Bool.and_eq_true,
    decide_eq_true_eq, beq_iff_eq] at member
  rcases member with (lower | digit) | rfl
  · have low : 97 ≤ c.toNat := lower.1
    have high : c.toNat ≤ 122 := lower.2
    exact Text.isBlank_of_printable (by omega) (by omega)
  · have low : 48 ≤ c.toNat := digit.1
    have high : c.toNat ≤ 57 := digit.2
    exact Text.isBlank_of_printable (by omega) (by omega)
  · decide

theorem isBlank_of_isVerbChar {c : Char} (member : isVerbChar c = true) : Text.isBlank c = false := by
  simp only [isVerbChar, Bool.or_eq_true, beq_iff_eq] at member
  rcases member with upper | rfl
  · have bounds := Text.toNat_of_isAsciiUpper upper
    exact Text.isBlank_of_printable (by omega) (by omega)
  · decide

theorem isNameChar_of_isVerbChar {c : Char} (member : isVerbChar c = true) :
    isNameChar c = false := by
  simp only [isVerbChar, Bool.or_eq_true, beq_iff_eq] at member
  rcases member with upper | rfl
  · have bounds := Text.toNat_of_isAsciiUpper upper
    rw [Bool.eq_false_iff]
    intro named
    simp only [isNameChar, Text.isAsciiLower, Text.isAsciiDigit, Bool.or_eq_true, Bool.and_eq_true,
      decide_eq_true_eq, beq_iff_eq] at named
    rcases named with (lower | digit) | rfl
    · have low : 97 ≤ c.toNat := lower.1
      omega
    · have high : c.toNat ≤ 57 := digit.2
      omega
    · exact absurd bounds.2 (by decide)
  · decide

theorem not_isVerbChar_of_isBlank {c : Char} (blank : Text.isBlank c = true) :
    isVerbChar c = false := by
  rw [Bool.eq_false_iff]
  intro member
  rw [isBlank_of_isVerbChar member] at blank
  cases blank

theorem not_isNameChar_of_isBlank {c : Char} (blank : Text.isBlank c = true) :
    isNameChar c = false := by
  rw [Bool.eq_false_iff]
  intro member
  rw [isBlank_of_isNameChar member] at blank
  cases blank

theorem IsGap.head_blank {gap : Text} (apart : IsGap gap) (rest : Text) {c : Char}
    (first : (gap ++ rest : Text).head? = some c) : Text.isBlank c = true := by
  rw [List.head?_append_of_ne_nil _ apart.nonempty] at first
  exact apart.blank c (List.mem_of_head? first)

theorem IsGap.head? {gap : Text} (apart : IsGap gap) (rest : Text) :
    (gap ++ rest : Text).head?.any Text.isBlank = true := by
  rcases List.exists_cons_of_ne_nil apart.nonempty with ⟨c, others, rfl⟩
  simpa using apart.blank c List.mem_cons_self

theorem trimLeft_path {path : Text} (nonempty : path ≠ [])
    (solid : ∀ c ∈ path, Text.isBlank c = false) (rest : Text) :
    Text.trimLeft (path ++ rest) = path ++ rest := by
  apply Text.trimLeft_of_head
  intro c first
  rw [List.head?_append_of_ne_nil _ nonempty] at first
  exact solid c (List.mem_of_head? first)

theorem sparesTarget_of_oneLine {gap : Text} (long : 2 ≤ gap.length) (oneLine : '\n' ∉ gap) :
    sparesTarget gap = true := by
  rw [← List.mem_reverse] at oneLine
  rw [← List.length_reverse] at long
  unfold sparesTarget
  match shape : gap.reverse with
  | [] => simp [shape] at long
  | [c] => simp [shape] at long
  | c :: d :: others =>
    have other : c ≠ '\n' := by
      rintro rfl
      exact oneLine (by simp [shape])
    simp [other]

theorem exists_of_sparesTarget {gap : Text} (spares : sparesTarget gap = true) :
    ∃ front last, gap = front ++ [last] ∧ front ≠ [] := by
  unfold sparesTarget at spares
  split at spares
  · rename_i c d others shape
    exact ⟨(c :: d :: others).reverse, '\n', by simpa using congrArg List.reverse shape, by simp⟩
  · rename_i c d others _ shape
    exact ⟨(d :: others).reverse, c, by simpa using congrArg List.reverse shape, by simp⟩
  · cases spares

theorem target?_eq (text : Text) :
    target? text =
      if (text.dropWhile Text.isBlank).isEmpty then
        if sparesTarget (text.takeWhile Text.isBlank) then some [] else none
      else if ((Text.beforeSuffix? (text.dropWhile Text.isBlank) ['\n']).getD
          (text.dropWhile Text.isBlank)).contains '\n' then none
      else some (Text.trim (text.dropWhile Text.isBlank)) := rfl

theorem target?_gap {gap rest : Text} (apart : IsGap gap) (nonempty : rest ≠ [])
    (oneLine : '\n' ∉ gap ++ rest) : target? (gap ++ rest) = some rest.trim := by
  have left_over : (gap ++ rest).dropWhile Text.isBlank = Text.trimLeft rest :=
    Text.trimLeft_append_of_blank apart.blank rest
  by_cases blank : ∀ c ∈ rest, Text.isBlank c = true
  · -- the whole text is white, and its last character goes to the target
    have none_left : Text.trimLeft rest = [] := List.dropWhile_eq_nil_iff.mpr blank
    have all_blank : (gap ++ rest).takeWhile Text.isBlank = gap ++ rest := by
      rw [List.takeWhile_eq_self_iff]
      intro c present
      exact (List.mem_append.mp present).elim (apart.blank c) (blank c)
    have long : 2 ≤ (gap ++ rest).length := by
      have first := List.length_pos_iff.mpr apart.nonempty
      have second := List.length_pos_iff.mpr nonempty
      rw [List.length_append]
      omega
    have spares := sparesTarget_of_oneLine long oneLine
    simp [target?_eq, left_over, none_left, all_blank, spares, Text.trim_of_blank blank]
  · have some_left : Text.trimLeft rest ≠ [] := by
      simpa [Text.trimLeft, List.dropWhile_eq_nil_iff] using blank
    have clean : '\n' ∉ (Text.beforeSuffix? (Text.trimLeft rest) ['\n']).getD (Text.trimLeft rest) := by
      have absent : '\n' ∉ Text.trimLeft rest := fun present =>
        oneLine (List.mem_append_right gap (Text.trimLeft_subset rest present))
      cases found : Text.beforeSuffix? (Text.trimLeft rest) ['\n'] with
      | none => exact absent
      | some body => exact fun present => absent (Text.mem_of_mem_beforeSuffix? found present)
    simp [target?_eq, left_over, some_left, clean, Text.trim_trimLeft]

theorem exists_gap_of_target? {text target : Text}
    (boundary : ∀ c, text.head? = some c → Text.isBlank c = true)
    (found : target? text = some target) :
    ∃ gap rest, text = gap ++ rest ∧ IsGap gap ∧ rest ≠ [] ∧ target = rest.trim := by
  have parts : text.takeWhile Text.isBlank ++ text.dropWhile Text.isBlank = text :=
    List.takeWhile_append_dropWhile
  have blank : ∀ c ∈ text.takeWhile Text.isBlank, Text.isBlank c = true :=
    fun c present => List.mem_takeWhile_imp present
  by_cases empty : text.dropWhile Text.isBlank = []
  · rw [target?_eq, if_pos (List.isEmpty_iff.mpr empty), Option.ite_none_right_eq_some] at found
    obtain ⟨spares, answer⟩ := found
    obtain ⟨front, last, shape, nonempty⟩ := exists_of_sparesTarget spares
    rw [empty, List.append_nil, shape] at parts
    rw [shape] at blank
    have last_blank : ∀ c ∈ [last], Text.isBlank c = true :=
      fun c present => blank c (List.mem_append_right front present)
    refine ⟨front, [last], parts.symm,
      ⟨nonempty, fun c present => blank c (List.mem_append_left [last] present)⟩, by simp, ?_⟩
    rw [Text.trim_of_blank last_blank]
    exact (Option.some.inj answer).symm
  · rw [target?_eq, if_neg (by simpa using empty), Option.ite_none_left_eq_some] at found
    refine ⟨text.takeWhile Text.isBlank, text.dropWhile Text.isBlank, parts.symm, ⟨?_, blank⟩,
      empty, (Option.some.inj found.2).symm⟩
    intro none_taken
    cases text with
    | nil => simp at empty
    | cons c others => simp [boundary c rfl] at none_taken

theorem Ending.head_solid (ending : Ending) {c : Char} (first : ending.text.head? = some c) :
    Text.isBlank c = false := by
  rw [Ending.text, List.head?_append_of_ne_nil _ ending.path_nonempty] at first
  exact ending.path_solid c (List.mem_of_head? first)

theorem Ending.trimLeft_text (ending : Ending) : Text.trimLeft ending.text = ending.text :=
  Text.trimLeft_of_head fun _ first => ending.head_solid first

theorem pathAndTarget?_eq_some_iff {name verbs text : Text} {columns : Columns}
    (oneLine : '\n' ∉ text) :
    pathAndTarget? name verbs text = some columns ↔
      ∃ ending : Ending, ending.text = text ∧
        columns = ⟨name, verbs, ending.path, ending.rest.trim⟩ := by
  constructor
  · intro found
    have parts : text.takeWhile (!Text.isBlank ·) ++ text.dropWhile (!Text.isBlank ·) = text :=
      List.takeWhile_append_dropWhile
    simp only [pathAndTarget?, Text.run, List.isEmpty_iff, Option.ite_none_left_eq_some,
      Option.map_eq_some_iff] at found
    obtain ⟨nonempty, target, read, rfl⟩ := found
    have boundary : ∀ c, (text.dropWhile (!Text.isBlank ·)).head? = some c →
        Text.isBlank c = true := by
      intro c first
      have bound := List.head?_dropWhile_not (!Text.isBlank ·) text
      simpa [first] using bound
    obtain ⟨gap, rest, shape, apart, rest_nonempty, rfl⟩ := exists_gap_of_target? boundary read
    refine ⟨{
      path := text.takeWhile (!Text.isBlank ·)
      afterPath := gap
      rest := rest
      path_nonempty := nonempty
      path_solid := fun c present => by simpa using List.mem_takeWhile_imp present
      path_apart := apart
      rest_nonempty := rest_nonempty }, ?_, rfl⟩
    rw [Ending.text, ← shape, parts]
  · rintro ⟨ending, rfl, rfl⟩
    have cut := Text.run_append (!Text.isBlank ·) ending.path (ending.afterPath ++ ending.rest)
      (fun c present => by simp [ending.path_solid c present])
      (fun c first => by simp [ending.path_apart.head_blank _ first])
    have read := target?_gap ending.path_apart ending.rest_nonempty
      (fun present => oneLine (List.mem_append_right ending.path present))
    simp [pathAndTarget?, Ending.text, cut, ending.path_nonempty, read]

theorem trimLeft_append_ending {blanks : Text} (blank : ∀ c ∈ blanks, Text.isBlank c = true)
    (ending : Ending) : Text.trimLeft (blanks ++ ending.text) = ending.text := by
  rw [Text.trimLeft_append_of_blank blank, ending.trimLeft_text]

theorem isGap_takeWhile {text : Text} (first : text.head?.any Text.isBlank = true) :
    IsGap (text.takeWhile Text.isBlank) := by
  refine ⟨?_, fun _ present => List.mem_takeWhile_imp present⟩
  cases text with
  | nil => cases first
  | cons c others =>
    have blank : Text.isBlank c = true := by simpa using first
    simp [blank]

theorem withVerbs?_eq_some_iff {name text : Text} {columns : Columns} (oneLine : '\n' ∉ text) :
    withVerbs? name text = some columns ↔
      ∃ remainder : Remainder, remainder.text = text ∧ remainder.verbs ≠ [] ∧
        columns = ⟨name, remainder.verbs, remainder.path, remainder.rest.trim⟩ := by
  constructor
  · intro found
    let verbs := (Text.trimLeft text).takeWhile isVerbChar
    let rest := (Text.trimLeft text).dropWhile isVerbChar
    have parts : verbs ++ rest = Text.trimLeft text := List.takeWhile_append_dropWhile
    have bounds : ¬ (verbs = [] ∨ rest.head?.any Text.isBlank = false) ∧
        pathAndTarget? name verbs (Text.trimLeft rest) = some columns := by
      simpa only [withVerbs?, Text.run, Bool.or_eq_true, List.isEmpty_iff, Bool.not_eq_true',
        Option.ite_none_left_eq_some] using found
    obtain ⟨present, ended⟩ := bounds
    rw [not_or, Bool.not_eq_false] at present
    have inText : Text.trimLeft rest ⊆ text := by
      intro c inside
      apply Text.trimLeft_subset text
      rw [← parts]
      exact List.mem_append_right verbs (Text.trimLeft_subset rest inside)
    obtain ⟨ending, shape, rfl⟩ :=
      (pathAndTarget?_eq_some_iff fun feed => oneLine (inText feed)).mp ended
    refine ⟨{
      toEnding := ending
      afterName := text.takeWhile Text.isBlank
      verbs := verbs
      afterVerbs := rest.takeWhile Text.isBlank
      afterName_blank := fun _ inside => List.mem_takeWhile_imp inside
      verbs_chars := fun _ inside => List.mem_takeWhile_imp inside
      verbs_apart := isGap_takeWhile present.2 }, ?_, present.1, rfl⟩
    rw [Remainder.text, shape, Text.takeWhile_append_trimLeft, parts, Text.takeWhile_append_trimLeft]
  · rintro ⟨remainder, rfl, some_verbs, rfl⟩
    have begun : Text.trimLeft remainder.text =
        remainder.verbs ++ (remainder.afterVerbs ++ remainder.toEnding.text) := by
      rw [Remainder.text, Text.trimLeft_append_of_blank remainder.afterName_blank,
        trimLeft_path some_verbs fun c present => isBlank_of_isVerbChar (remainder.verbs_chars c present)]
    have cut := Text.run_append isVerbChar remainder.verbs
      (remainder.afterVerbs ++ remainder.toEnding.text) remainder.verbs_chars
      (fun c first => not_isVerbChar_of_isBlank (remainder.verbs_apart.head_blank _ first))
    have ended : pathAndTarget? name remainder.verbs remainder.toEnding.text =
        some ⟨name, remainder.verbs, remainder.path, remainder.rest.trim⟩ :=
      (pathAndTarget?_eq_some_iff fun present => oneLine (by simp [Remainder.text, present])).mpr
        ⟨remainder.toEnding, rfl, rfl⟩
    have split := trimLeft_append_ending remainder.verbs_apart.blank remainder.toEnding
    simp only [withVerbs?, begun, cut, remainder.verbs_apart.head?, split, ended]
    simp [some_verbs]

theorem withoutVerbs?_eq_some_iff {name text : Text} {columns : Columns} (oneLine : '\n' ∉ text) :
    withoutVerbs? name text = some columns ↔
      ∃ remainder : Remainder, remainder.text = text ∧ remainder.verbs = [] ∧
        columns = ⟨name, remainder.verbs, remainder.path, remainder.rest.trim⟩ := by
  constructor
  · intro found
    rw [withoutVerbs?, Option.ite_none_right_eq_some] at found
    obtain ⟨first, ended⟩ := found
    obtain ⟨ending, shape, rfl⟩ :=
      (pathAndTarget?_eq_some_iff fun feed => oneLine (Text.trimLeft_subset text feed)).mp ended
    refine ⟨{
      toEnding := ending
      afterName := []
      verbs := []
      afterVerbs := text.takeWhile Text.isBlank
      afterName_blank := by simp
      verbs_chars := by simp
      verbs_apart := isGap_takeWhile first }, ?_, rfl, rfl⟩
    rw [Remainder.text, shape, List.nil_append, List.nil_append, Text.takeWhile_append_trimLeft]
  · rintro ⟨remainder, rfl, no_verbs, rfl⟩
    have gap : IsGap (remainder.afterName ++ remainder.afterVerbs) := {
      nonempty := by simp [remainder.verbs_apart.nonempty]
      blank := fun c present =>
        (List.mem_append.mp present).elim (remainder.afterName_blank c) (remainder.verbs_apart.blank c) }
    have whole : remainder.text =
        (remainder.afterName ++ remainder.afterVerbs) ++ remainder.toEnding.text := by
      rw [Remainder.text, no_verbs, List.nil_append, List.append_assoc]
    have ended : pathAndTarget? name remainder.verbs remainder.toEnding.text =
        some ⟨name, remainder.verbs, remainder.path, remainder.rest.trim⟩ :=
      (pathAndTarget?_eq_some_iff fun present => oneLine (by simp [whole, present])).mpr
        ⟨remainder.toEnding, rfl, rfl⟩
    rw [withoutVerbs?, whole, if_pos (gap.head? _), trimLeft_append_ending gap.blank, ← ended, no_verbs]

theorem afterName?_eq_some_iff {name text : Text} {columns : Columns} (oneLine : '\n' ∉ text) :
    afterName? name text = some columns ↔
      ∃ remainder : Remainder, remainder.text = text ∧
        (∀ other : Remainder, other.text = text → other.verbs ≠ [] → remainder.verbs ≠ []) ∧
        columns = ⟨name, remainder.verbs, remainder.path, remainder.rest.trim⟩ := by
  rw [afterName?, Option.orElse_eq_some]
  constructor
  · rintro (found | ⟨absent, found⟩)
    · obtain ⟨remainder, whole, some_verbs, columns_eq⟩ := (withVerbs?_eq_some_iff oneLine).mp found
      exact ⟨remainder, whole, fun _ _ _ => some_verbs, columns_eq⟩
    · obtain ⟨remainder, whole, _, columns_eq⟩ := (withoutVerbs?_eq_some_iff oneLine).mp found
      refine ⟨remainder, whole, fun other other_whole other_verbs => ?_, columns_eq⟩
      have hit : withVerbs? name text = some ⟨name, other.verbs, other.path, other.rest.trim⟩ :=
        (withVerbs?_eq_some_iff oneLine).mpr ⟨other, other_whole, other_verbs, rfl⟩
      rw [absent] at hit
      cases hit
  · rintro ⟨remainder, whole, preferred, columns_eq⟩
    by_cases some_verbs : remainder.verbs = []
    · refine .inr ⟨?_, (withoutVerbs?_eq_some_iff oneLine).mpr ⟨remainder, whole, some_verbs, columns_eq⟩⟩
      rw [Option.eq_none_iff_forall_ne_some]
      intro other_columns hit
      obtain ⟨other, other_whole, other_verbs, _⟩ := (withVerbs?_eq_some_iff oneLine).mp hit
      exact preferred other other_whole other_verbs some_verbs
    · exact .inl ((withVerbs?_eq_some_iff oneLine).mpr ⟨remainder, whole, some_verbs, columns_eq⟩)

theorem Remainder.head_not_name (remainder : Remainder) {c : Char}
    (first : remainder.text.head? = some c) : isNameChar c = false := by
  rw [Remainder.text] at first
  by_cases no_gap : remainder.afterName = []
  · rw [no_gap, List.nil_append] at first
    by_cases no_verbs : remainder.verbs = []
    · rw [no_verbs, List.nil_append] at first
      exact not_isNameChar_of_isBlank (remainder.verbs_apart.head_blank _ first)
    · rw [List.head?_append_of_ne_nil _ no_verbs] at first
      exact isNameChar_of_isVerbChar (remainder.verbs_chars c (List.mem_of_head? first))
  · rw [List.head?_append_of_ne_nil _ no_gap] at first
    exact not_isNameChar_of_isBlank (remainder.afterName_blank c (List.mem_of_head? first))

namespace Parts

theorem run_line (parts : Parts) (named : parts.name ≠ []) :
    Text.run (Text.trimLeft parts.line) isNameChar = (parts.name, parts.toRemainder.text) := by
  rw [line, Text.trimLeft_append_of_blank parts.indent_blank,
    trimLeft_path named fun c present => isBlank_of_isNameChar (parts.name_chars c present)]
  exact Text.run_append isNameChar _ _ parts.name_chars fun _ first => parts.toRemainder.head_not_name first

def indented (parts : Parts) : Remainder where
  toEnding := parts.toEnding
  afterName := parts.indent ++ parts.afterName
  verbs := parts.verbs
  afterVerbs := parts.afterVerbs
  afterName_blank := fun c present =>
    (List.mem_append.mp present).elim (parts.indent_blank c) (parts.afterName_blank c)
  verbs_chars := parts.verbs_chars
  verbs_apart := parts.verbs_apart

theorem indented_text {parts : Parts} (unnamed : parts.name = []) : parts.indented.text = parts.line := by
  rw [line, unnamed, List.nil_append]
  exact List.append_assoc ..

theorem exists_preferred (parts : Parts) : ∃ best : Parts, best.line = parts.line ∧ best.Preferred := by
  obtain ⟨named, whole, name⟩ : ∃ named : Parts, named.line = parts.line ∧
      ∀ other : Parts, other.line = parts.line → other.name ≠ [] → named.name ≠ [] := by
    by_cases some_name : ∃ other : Parts, other.line = parts.line ∧ other.name ≠ []
    · obtain ⟨other, other_whole, other_name⟩ := some_name
      exact ⟨other, other_whole, fun _ _ _ => other_name⟩
    · exact ⟨parts, rfl, fun other other_whole other_name =>
        absurd ⟨other, other_whole, other_name⟩ some_name⟩
  by_cases some_verbs : ∃ other : Parts, other.line = parts.line ∧ other.name = named.name ∧ other.verbs ≠ []
  · obtain ⟨other, other_whole, same_name, other_verbs⟩ := some_verbs
    refine ⟨other, other_whole, ⟨?_, fun _ _ _ _ => other_verbs⟩⟩
    rw [other_whole, same_name]
    exact name
  · refine ⟨named, whole, ⟨by rw [whole]; exact name, ?_⟩⟩
    intro other other_whole same_name other_verbs
    exact absurd ⟨other, other_whole.trans whole, same_name, other_verbs⟩ some_verbs

theorem isRun (parts : Parts) :
    (parts.name ≠ [] → IsRun isNameChar parts.indent parts.name parts.toRemainder.text) ∧
      (parts.verbs ≠ [] → IsRun isVerbChar (parts.indent ++ (parts.name ++ parts.afterName)) parts.verbs
        (parts.afterVerbs ++ parts.toEnding.text)) ∧
      IsRun (!Text.isBlank ·)
        (parts.indent ++ (parts.name ++ (parts.afterName ++ (parts.verbs ++ parts.afterVerbs))))
        parts.path (parts.afterPath ++ parts.rest) := by
  refine ⟨fun _ => ?_, fun _ => ?_, ?_⟩
  · exact {
      inside := parts.name_chars
      left := fun c last => not_isNameChar_of_isBlank (parts.indent_blank c (List.mem_of_getLast? last))
      right := fun _ first => parts.toRemainder.head_not_name first }
  · exact {
      inside := parts.verbs_chars
      left := by
        intro c last
        have kinds : Text.isBlank c = true ∨ isNameChar c = true := by
          rcases List.mem_append.mp (List.mem_of_getLast? last) with inIndent | later
          · exact .inl (parts.indent_blank c inIndent)
          · exact (List.mem_append.mp later).symm.imp (parts.afterName_blank c) (parts.name_chars c)
        rcases kinds with blank | named
        · exact not_isVerbChar_of_isBlank blank
        · rw [Bool.eq_false_iff]
          intro verb
          rw [isNameChar_of_isVerbChar verb] at named
          cases named
      right := fun _ first => not_isVerbChar_of_isBlank (parts.verbs_apart.head_blank _ first) }
  · exact {
      inside := fun c present => by simp [parts.path_solid c present]
      left := by
        intro c last
        have inGap : c ∈ parts.afterVerbs := by
          simp only [← List.append_assoc] at last
          rw [List.getLast?_append_of_ne_nil _ parts.verbs_apart.nonempty] at last
          exact List.mem_of_getLast? last
        simp [parts.verbs_apart.blank c inGap]
      right := fun _ first => by simp [parts.path_apart.head_blank _ first] }

end Parts

def Remainder.unnamed (remainder : Remainder) : Parts where
  toRemainder := remainder
  indent := []
  name := []
  indent_blank := by simp
  name_chars := by simp

def Parts.exchanged (parts : Parts) (other : Remainder) : Parts :=
  { parts with toRemainder := other }

theorem Parts.exchanged_line {parts : Parts} {other : Remainder}
    (same : other.text = parts.toRemainder.text) : (parts.exchanged other).line = parts.line := by
  simp only [line, exchanged, same]

section Line

variable {line : Text} {columns : Columns} (oneLine : '\n' ∉ line)

include oneLine

theorem named_eq_some_iff :
    (let (name, rest) := Text.run (Text.trimLeft line) isNameChar
      if name.isEmpty then none else afterName? name rest) = some columns ↔
      ∃ parts : Parts, parts.line = line ∧ parts.name ≠ [] ∧ parts.Preferred ∧ columns = parts.columns := by
  constructor
  · intro found
    let name := (Text.trimLeft line).takeWhile isNameChar
    let rest := (Text.trimLeft line).dropWhile isNameChar
    have whole : name ++ rest = Text.trimLeft line := List.takeWhile_append_dropWhile
    have bounds : ¬ name = [] ∧ afterName? name rest = some columns := by
      simpa only [Text.run, List.isEmpty_iff, Option.ite_none_left_eq_some] using found
    have inLine : rest ⊆ line := by
      intro c inside
      apply Text.trimLeft_subset line
      rw [← whole]
      exact List.mem_append_right name inside
    obtain ⟨remainder, shape, preferred, rfl⟩ :=
      (afterName?_eq_some_iff fun feed => oneLine (inLine feed)).mp bounds.2
    let parts : Parts := {
      toRemainder := remainder
      indent := line.takeWhile Text.isBlank
      name := name
      indent_blank := fun _ inside => List.mem_takeWhile_imp inside
      name_chars := fun _ inside => List.mem_takeWhile_imp inside }
    have parts_line : parts.line = line := by
      rw [Parts.line, shape, whole, Text.takeWhile_append_trimLeft]
    refine ⟨parts, parts_line, bounds.1, ⟨fun _ _ _ => bounds.1, ?_⟩, rfl⟩
    intro other other_line same_name
    have run := other.run_line (same_name ▸ bounds.1)
    rw [other_line, parts_line] at run
    exact preferred other.toRemainder (congrArg Prod.snd run).symm
  · rintro ⟨parts, rfl, named, preferred, rfl⟩
    have after : afterName? parts.name parts.toRemainder.text = some parts.columns :=
      (afterName?_eq_some_iff fun feed => oneLine (by simp [Parts.line, feed])).mpr
        ⟨parts.toRemainder, rfl,
          fun other same => preferred.verbs (parts.exchanged other) (Parts.exchanged_line same) rfl, rfl⟩
    simp [parts.run_line named, named, after]

theorem ofLine?_eq_some_iff :
    ofLine? line = some columns ↔
      ∃ parts : Parts, parts.line = line ∧ parts.Preferred ∧ columns = parts.columns := by
  rw [ofLine?, Option.orElse_eq_some, named_eq_some_iff oneLine]
  constructor
  · rintro (⟨parts, whole, _, preferred, columns_eq⟩ | ⟨absent, found⟩)
    · exact ⟨parts, whole, preferred, columns_eq⟩
    · obtain ⟨remainder, shape, preferred, rfl⟩ := (afterName?_eq_some_iff oneLine).mp found
      have unnamed : ∀ other : Parts, other.line = line → other.name = [] := by
        intro other whole
        by_contra named
        obtain ⟨best, best_line, best_preferred⟩ := other.exists_preferred
        have hit := (named_eq_some_iff oneLine).mpr ⟨best, best_line.trans whole,
          best_preferred.name other best_line.symm named, best_preferred, rfl⟩
        cases absent.symm.trans hit
      refine ⟨remainder.unnamed, shape,
        ⟨fun other whole named => absurd (unnamed other (whole.trans shape)) named, ?_⟩, rfl⟩
      intro other whole same_name
      exact preferred other.indented ((Parts.indented_text same_name).trans (whole.trans shape))
  · rintro ⟨parts, whole, preferred, rfl⟩
    by_cases unnamed : parts.name = []
    · refine .inr ⟨?_, ?_⟩
      · rw [Option.eq_none_iff_forall_ne_some]
        intro other_columns hit
        obtain ⟨other, other_line, named, _⟩ := (named_eq_some_iff oneLine).mp hit
        exact preferred.name other (other_line.trans whole.symm) named unnamed
      · rw [afterName?_eq_some_iff oneLine, Parts.columns, unnamed]
        refine ⟨parts.indented, (Parts.indented_text unnamed).trans whole, ?_, rfl⟩
        intro other other_text
        exact preferred.verbs other.unnamed (other_text.trans whole.symm) unnamed.symm
    · exact .inl ⟨parts, whole, unnamed, preferred, rfl⟩

theorem ofLine?_eq_none_iff : ofLine? line = none ↔ ¬ ∃ parts : Parts, parts.line = line := by
  constructor
  · rintro absent ⟨parts, whole⟩
    obtain ⟨best, best_line, preferred⟩ := parts.exists_preferred
    have hit := (ofLine?_eq_some_iff oneLine).mpr ⟨best, best_line.trans whole, preferred, rfl⟩
    cases absent.symm.trans hit
  · intro no_parts
    rw [Option.eq_none_iff_forall_ne_some]
    intro columns hit
    obtain ⟨parts, whole, _⟩ := (ofLine?_eq_some_iff oneLine).mp hit
    exact no_parts ⟨parts, whole⟩

end Line

end Columns

theorem LineReading.routes?_ofData (application : Option Text) (line : Text) :
    (ofData application line).routes? =
      (Columns.ofLine? line).map fun columns => (candidates application columns).filter (·.isValid) := by
  rw [ofData]
  cases Columns.ofLine? line <;> rfl

/-- A line without a line feed is read as data just when it has parts. The routes are those of the
columns of its preferred parts, and of no others, and in any parts the name, the verbs and the path are
the longest runs of their characters. -/
theorem routes_of_grammar (application : Option Text) {line : Text} (oneLine : '\n' ∉ line) :
    ((LineReading.ofData application line).routes? = none ↔
        ¬ ∃ parts : Columns.Parts, parts.line = line) ∧
      (∀ routes, (LineReading.ofData application line).routes? = some routes ↔
        ∃ parts : Columns.Parts, parts.line = line ∧ parts.Preferred ∧
          routes = (LineReading.candidates application parts.columns).filter (·.isValid)) ∧
      ∀ parts : Columns.Parts, parts.line = line →
        (parts.name ≠ [] → Columns.IsRun Columns.isNameChar parts.indent parts.name
          parts.toRemainder.text) ∧
        (parts.verbs ≠ [] → Columns.IsRun Columns.isVerbChar
          (parts.indent ++ (parts.name ++ parts.afterName)) parts.verbs
          (parts.afterVerbs ++ parts.toEnding.text)) ∧
        Columns.IsRun (!Text.isBlank ·)
          (parts.indent ++ (parts.name ++ (parts.afterName ++ (parts.verbs ++ parts.afterVerbs))))
          parts.path (parts.afterPath ++ parts.rest) := by
  refine ⟨?_, ?_, fun parts _ => parts.isRun⟩
  · rw [LineReading.routes?_ofData, Option.map_eq_none_iff, Columns.ofLine?_eq_none_iff oneLine]
  · intro routes
    rw [LineReading.routes?_ofData, Option.map_eq_some_iff]
    constructor
    · rintro ⟨columns, found, rfl⟩
      obtain ⟨parts, whole, preferred, rfl⟩ := (Columns.ofLine?_eq_some_iff oneLine).mp found
      exact ⟨parts, whole, preferred, rfl⟩
    · rintro ⟨parts, whole, preferred, rfl⟩
      exact ⟨parts.columns, (Columns.ofLine?_eq_some_iff oneLine).mpr ⟨parts, whole, preferred, rfl⟩, rfl⟩

def namelessLine : Text := " old /new#show".toList

theorem routes_of_namelessLine :
    ∃ parts : Columns.Parts, parts.line = namelessLine ∧ parts.name = [] ∧ parts.path = "old".toList ∧
      ∀ other : Columns.Parts, other.line = namelessLine → other.name = [] := by
  have oneLine : '\n' ∉ namelessLine := by decide
  obtain ⟨_, read, _⟩ := routes_of_grammar none oneLine
  have routes : (LineReading.ofData none namelessLine).routes? =
      some [⟨none, .any, "old".toList, "/new".toList, "show".toList, [], .normal⟩] := by
    decide
  obtain ⟨parts, whole, preferred, kept⟩ := (read _).mp routes
  have among := List.mem_of_mem_filter (kept ▸ List.mem_singleton_self _)
  obtain ⟨verb, _, route⟩ := List.mem_map.mp among
  have nameless : parts.name = [] := congrArg Route.name route
  refine ⟨parts, whole, nameless, congrArg Route.path route, ?_⟩
  intro other other_line
  by_contra named
  exact preferred.name other (other_line.trans whole.symm) named nameless

end RouteReport
