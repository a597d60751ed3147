import RouteReport.Proofs.Report.Grammar

namespace RouteReport

namespace Columns

def Ending.StandsApart (ending : Ending) : Prop :=
  ∀ c, ending.path.head? = some c → isNameChar c = false ∧ isVerbChar c = false

theorem Ending.standsApart_of_slash {ending : Ending} (slash : ending.path.head? = some '/') :
    ending.StandsApart := by
  intro c first
  rw [← Option.some.inj (slash.symm.trans first)]
  decide

theorem Ending.head?_text (ending : Ending) : ending.text.head? = ending.path.head? :=
  List.head?_append_of_ne_nil _ ending.path_nonempty

namespace Remainder

variable (remainder : Remainder)

theorem trimLeft_text_of_verbs (some_verbs : remainder.verbs ≠ []) :
    Text.trimLeft remainder.text =
      remainder.verbs ++ (remainder.afterVerbs ++ remainder.toEnding.text) := by
  rw [text, Text.trimLeft_append_of_blank remainder.afterName_blank]
  exact trimLeft_path some_verbs
    (fun c present => isBlank_of_isVerbChar (remainder.verbs_chars c present)) _

theorem trimLeft_text_of_none (no_verbs : remainder.verbs = []) :
    Text.trimLeft remainder.text = remainder.toEnding.text := by
  rw [text, Text.trimLeft_append_of_blank remainder.afterName_blank, no_verbs, List.nil_append,
    trimLeft_append_ending remainder.verbs_apart.blank]

theorem head_trimLeft_text (apart : remainder.toEnding.StandsApart) {c : Char}
    (first : (Text.trimLeft remainder.text).head? = some c) :
    isNameChar c = false ∧ (isVerbChar c = true ↔ remainder.verbs ≠ []) := by
  by_cases no_verbs : remainder.verbs = []
  · rw [remainder.trimLeft_text_of_none no_verbs, Ending.head?_text] at first
    simp [apart c first, no_verbs]
  · rw [remainder.trimLeft_text_of_verbs no_verbs, List.head?_append_of_ne_nil _ no_verbs] at first
    have verb := remainder.verbs_chars c (List.mem_of_head? first)
    simp [isNameChar_of_isVerbChar verb, verb, no_verbs]

end Remainder

namespace Parts

variable {parts : Parts}

theorem trimLeft_line_of_named (named : parts.name ≠ []) :
    Text.trimLeft parts.line = parts.name ++ parts.toRemainder.text := by
  rw [line, Text.trimLeft_append_of_blank parts.indent_blank]
  exact trimLeft_path named (fun c present => isBlank_of_isNameChar (parts.name_chars c present)) _

theorem trimLeft_line_of_unnamed (unnamed : parts.name = []) :
    Text.trimLeft parts.line = Text.trimLeft parts.toRemainder.text := by
  rw [line, Text.trimLeft_append_of_blank parts.indent_blank, unnamed, List.nil_append]

theorem trimLeft_remainder_eq {other : Parts} (same : other.line = parts.line)
    (same_name : other.name = parts.name) :
    Text.trimLeft other.toRemainder.text = Text.trimLeft parts.toRemainder.text := by
  by_cases unnamed : parts.name = []
  · rw [← trimLeft_line_of_unnamed unnamed, ← trimLeft_line_of_unnamed (same_name.trans unnamed), same]
  · have run := other.run_line (same_name ▸ unnamed)
    rw [same, parts.run_line unnamed] at run
    rw [(Prod.mk.inj run).2]

section StandsApart

variable (apart : parts.toEnding.StandsApart)

include apart

theorem preferred_of_standsApart : parts.Preferred where
  name := by
    intro other same other_named unnamed
    rcases List.exists_cons_of_ne_nil other_named with ⟨c, rest, shape⟩
    have first : (Text.trimLeft parts.toRemainder.text).head? = some c := by
      rw [← trimLeft_line_of_unnamed unnamed, ← same, trimLeft_line_of_named other_named, shape]
      rfl
    have named := other.name_chars c (by simp [shape])
    rw [(parts.toRemainder.head_trimLeft_text apart first).1] at named
    cases named
  verbs := by
    intro other same same_name other_verbs
    rcases List.exists_cons_of_ne_nil other_verbs with ⟨c, rest, shape⟩
    have first : (Text.trimLeft parts.toRemainder.text).head? = some c := by
      rw [← trimLeft_remainder_eq same same_name,
        other.toRemainder.trimLeft_text_of_verbs other_verbs, shape]
      rfl
    exact (parts.toRemainder.head_trimLeft_text apart first).2.mp
      (other.verbs_chars c (by simp [shape]))

theorem ofLine?_of_standsApart (oneLine : '\n' ∉ parts.line) : ofLine? parts.line = some parts.columns :=
  (ofLine?_eq_some_iff oneLine).mpr ⟨parts, rfl, preferred_of_standsApart apart, rfl⟩

theorem not_capitalized {a b : Char} (capital : isVerbChar a = true) (noVerb : isVerbChar b = false)
    (visible : Text.isBlank b = false) (more : Text) : ¬ a :: b :: more <+: Text.trimLeft parts.line := by
  rintro ⟨tail, starts⟩
  by_cases unnamed : parts.name = []
  · rw [trimLeft_line_of_unnamed unnamed] at starts
    have first : (Text.trimLeft parts.toRemainder.text).head? = some a := by
      rw [← starts]
      rfl
    have some_verbs := (parts.toRemainder.head_trimLeft_text apart first).2.mp capital
    rw [parts.toRemainder.trimLeft_text_of_verbs some_verbs] at starts
    rcases List.exists_cons_of_ne_nil some_verbs with ⟨v, verbs, shape⟩
    rw [shape, List.cons_append] at starts
    have next : b :: (more ++ tail) = verbs ++ (parts.afterVerbs ++ parts.toEnding.text) :=
      (List.cons.inj starts).2
    cases verbs with
    | nil =>
      have blank := parts.verbs_apart.head_blank parts.toEnding.text (congrArg List.head? next).symm
      rw [visible] at blank
      cases blank
    | cons w others =>
      have same : b = w := (List.cons.inj next).1
      rw [same, parts.verbs_chars w (by simp [shape])] at noVerb
      cases noVerb
  · rw [trimLeft_line_of_named unnamed] at starts
    rcases List.exists_cons_of_ne_nil unnamed with ⟨c, rest, shape⟩
    rw [shape] at starts
    have same : a = c := (List.cons.inj starts).1
    have named := parts.name_chars c (by simp [shape])
    rw [← same, isNameChar_of_isVerbChar capital] at named
    cases named

end StandsApart

end Parts

end Columns

namespace LineReading

variable {parts : Columns.Parts} (apart : parts.toEnding.StandsApart)

include apart

theorem ofAnnouncement?_of_standsApart : ofAnnouncement? parts.line = none := by
  have noHeader : isTableHeader parts.line = false := by
    have other : ¬ "Prefix".toList <+: Text.trimLeft parts.line :=
      Columns.Parts.not_capitalized apart (by decide) (by decide) (by decide) "efix".toList
    rw [isTableHeader, Text.afterPrefix?_eq_none other]
  have noEngine : announcedEngine? parts.line = none := by
    have other : ¬ "Routes for ".toList <+: parts.line := by
      intro starts
      have begun : Text.trimLeft parts.line = parts.line := by
        rcases starts with ⟨rest, whole⟩
        rw [← whole]
        rfl
      rw [← begun] at starts
      exact Columns.Parts.not_capitalized apart (by decide) (by decide) (by decide) "utes for ".toList starts
    rw [announcedEngine?, Text.afterPrefix?_eq_none other]
    rfl
  simp [ofAnnouncement?, noHeader, noEngine]

theorem routes?_of_standsApart (application : Option Text) (oneLine : '\n' ∉ parts.line) :
    (ofLine application parts.line).routes? =
      some ((candidates application parts.columns).filter (·.isValid)) := by
  rw [ofLine, ofAnnouncement?_of_standsApart apart, Option.getD_none, routes?_ofData,
    Columns.Parts.ofLine?_of_standsApart apart oneLine, Option.map_some]

end LineReading

end RouteReport
