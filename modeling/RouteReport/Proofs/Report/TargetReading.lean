import RouteReport.Proofs.ConstantPath
import RouteReport.Proofs.Report.Rendering
import RouteReport.Proofs.TextSearch

namespace RouteReport

namespace IsField

variable {text : Text} (field : IsField text)

include field

theorem head_not_blank {c : Char} (first : text.head? = some c) : Text.isBlank c = false :=
  Text.head_not_blank_of_trim field.trimmed first

theorem getLast_not_blank {c : Char} (last : text.getLast? = some c) : Text.isBlank c = false :=
  Text.getLast_not_blank_of_trim field.trimmed last

theorem head?_append (rest : Text) : ∃ c, (text ++ rest : Text).head? = some c ∧
    text.head? = some c := by
  rcases List.exists_cons_of_ne_nil field.nonempty with ⟨c, others, shape⟩
  exact ⟨c, by rw [shape]; rfl, by rw [shape]; rfl⟩

end IsField

theorem isRedirectTarget_of_head {target : Text}
    (first : ∀ c, target.head? = some c → Text.isBlank c = false) :
    isRedirectTarget target = true ↔ redirectMark <+: target := by
  rw [isRedirectTarget, Text.trimLeft_of_head first, List.isPrefixOf_iff_prefix]

theorem redirectMark_no_hash : '#' ∉ redirectMark := by decide

namespace Endpoint

theorem beforeClause?_eq_none {text : Text} (clean : '{' ∉ text) : beforeClause? text = none := by
  induction text with
  | nil => rfl
  | cons c rest ih =>
    have parts : '{' ≠ c ∧ '{' ∉ rest := by simpa using clean
    simp [beforeClause?, parts.1.symm, ih parts.2]

theorem beforeClause?_append {front body : Text} (clean : '{' ∉ front) (nonempty : body ≠ [])
    (oneLine : '\n' ∉ body) : beforeClause? (front ++ '{' :: body) = some front := by
  induction front with
  | nil => simp [beforeClause?, nonempty, oneLine]
  | cons c rest ih =>
    have parts : '{' ≠ c ∧ '{' ∉ rest := by simpa using clean
    simp [beforeClause?, parts.1.symm, ih parts.2]

theorem withoutClause_of_field {action : Text} (field : IsField action) (noBrace : '{' ∉ action) :
    withoutClause action = action := by
  have stop : Text.trimRight action = action :=
    Text.trimRight_of_getLast fun _ last => field.getLast_not_blank last
  unfold withoutClause
  split
  · rename_i body found
    have clean : '{' ∉ body := by
      intro present
      rw [stop] at found
      exact noBrace (Text.mem_of_mem_beforeSuffix? found present)
    rw [beforeClause?_eq_none clean]
    exact field.trimmed
  · exact field.trimmed

theorem withoutClause_of_clause {action : Text} (field : IsField action) (noBrace : '{' ∉ action)
    (clause : Clause) : withoutClause (action ++ clause.text) = action := by
  have shape : action ++ clause.text =
      (action ++ Text.spaces clause.gap ++ '{' :: clause.body) ++ ['}'] := by
    simp [Clause.text]
  have stop : Text.trimRight (action ++ clause.text) = action ++ clause.text := by
    apply Text.trimRight_of_getLast
    intro c last
    rw [shape, List.getLast?_concat] at last
    rw [← Option.some.inj last]
    rfl
  have clean : '{' ∉ action ++ Text.spaces clause.gap := by
    simp [noBrace, Text.spaces]
  have first : ∀ c, (action ++ Text.spaces clause.gap : Text).head? = some c →
      Text.isBlank c = false := by
    intro c head
    rcases field.head?_append (Text.spaces clause.gap) with ⟨d, whole, inAction⟩
    have same : d = c := Option.some.inj (whole.symm.trans head)
    exact same ▸ field.head_not_blank inAction
  rw [withoutClause, stop, shape, Text.beforeSuffix?_append]
  simp only [beforeClause?_append clean clause.nonempty clause.oneLine, Option.getD_some]
  rw [Text.trim, Text.trimLeft_of_head first, Text.trimRight_append_spaces]
  exact Text.trimRight_of_getLast fun _ last => field.getLast_not_blank last

theorem valueOf?_eq_none {key : Text} (text : Text) (absent : ¬ key <:+: text) :
    valueOf? key text = none := by
  induction text with
  | nil => rfl
  | cons c rest ih =>
    rw [List.infix_cons_iff, not_or] at absent
    simp [valueOf?, Text.afterPrefix?_eq_none absent.1, ih absent.2]

theorem inRack_of_word {c : Char} (ascii : c.toNat < 128) (member : c = ':' ∨ Text.isWord c = true) :
    inRack c = true := by
  rcases member with rfl | word
  · rfl
  · simp only [Text.isWord, ascii, ↓reduceIte, Bool.or_eq_true] at word
    simp only [inRack, Bool.or_eq_true]
    exact .inl (.inl word)

theorem inRack_of_startsRack {c : Char} (starts : startsRack c = true) : inRack c = true := by
  simp only [startsRack, Bool.or_eq_true] at starts
  simp only [inRack, Text.isAsciiLetter, Bool.or_eq_true]
  tauto

theorem ascii_of_inRack {c : Char} (inside : inRack c = true) : c.toNat < 128 := by
  simp only [inRack, Text.isAsciiLetter, Text.isAsciiDigit, Bool.or_eq_true, Bool.and_eq_true,
    decide_eq_true_eq, beq_iff_eq] at inside
  rcases inside with ((((lower | upper) | digit) | rfl) | rfl) | rfl
  · have bounds := Text.toNat_of_isAsciiLower lower
    omega
  · have bounds := Text.toNat_of_isAsciiUpper upper
    omega
  · have high : c.toNat ≤ 57 := digit.2
    omega
  all_goals decide

theorem rackName?_of_all {first second : Char} {rest : Text} (starts : startsRack first = true)
    (inside : ∀ c ∈ second :: rest, inRack c = true) :
    rackName? (first :: second :: rest) = some (first :: second :: rest) := by
  have whole : (second :: rest).takeWhile inRack = second :: rest :=
    List.takeWhile_eq_self_iff.mpr inside
  simp only [rackName?, List.head?_cons, Option.any_some, starts, inside second List.mem_cons_self,
    Bool.and_self, ↓reduceIte, whole]

theorem rackName?_sound {text name : Text} (found : rackName? text = some name) :
    name <:+: text ∧ 2 ≤ name.length ∧ ∀ c ∈ name, inRack c = true := by
  induction text with
  | nil => cases found
  | cons c rest ih =>
    rw [rackName?] at found
    split at found
    · rename_i begun
      rw [Bool.and_eq_true] at begun
      rw [← Option.some.inj found]
      have inside : ∀ x ∈ c :: rest.takeWhile inRack, inRack x = true :=
        List.forall_mem_cons.mpr
          ⟨inRack_of_startsRack begun.1, fun _ present => List.mem_takeWhile_imp present⟩
      refine ⟨(List.prefix_cons_inj c |>.mpr (List.takeWhile_prefix _)).isInfix, ?_, inside⟩
      cases rest with
      | nil => cases begun.2
      | cons d others =>
        have second : inRack d = true := by simpa using begun.2
        simp [second]
    · obtain ⟨inRest, others⟩ := ih found
      exact ⟨inRest.trans (List.suffix_cons c rest).isInfix, others⟩

theorem ofTarget_of_silent {target : Text} (noRedirect : isRedirectTarget target = false)
    (noHash : '#' ∉ target) (noController : ¬ [':', 'c'] <:+: target)
    (noAction : ¬ [':', 'a'] <:+: target) :
    ofTarget target = ⟨(rackName? target).getD [], []⟩ := by
  have controller : valueOf? ":controller".toList target = none :=
    valueOf?_eq_none target fun occurs => noController (List.IsInfix.trans ⟨[], "ontroller".toList, rfl⟩ occurs)
  have action : valueOf? ":action".toList target = none :=
    valueOf?_eq_none target fun occurs => noAction (List.IsInfix.trans ⟨[], "ction".toList, rfl⟩ occurs)
  rw [ofTarget, noRedirect, Text.cut?_singleton_eq_none_iff.mpr noHash, controller, action]
  rfl

section Constant

variable {constant : Text} (relative : ¬ scopeMark <+: constant) (path : isConstantPath constant = true)

include relative path

theorem rackName?_eq_self_iff :
    rackName? constant = some constant ↔ 2 ≤ constant.length ∧ ∀ c ∈ constant, c.toNat < 128 := by
  constructor
  · intro found
    obtain ⟨_, long, inside⟩ := rackName?_sound found
    exact ⟨long, fun c present => ascii_of_inRack (inside c present)⟩
  · rintro ⟨long, ascii⟩
    obtain ⟨first, rest, rfl, upper⟩ := head_of_isConstantPath relative path
    have members : ∀ c ∈ first :: rest, inRack c = true := fun c present =>
      inRack_of_word (ascii c present) (colon_or_word_of_isConstantPath path present)
    cases rest with
    | nil => cases Nat.not_succ_le_self 1 long
    | cons second others =>
      exact rackName?_of_all (by simp [startsRack, upper]) (List.forall_mem_cons.mp members).2

theorem ofTarget_constant :
    isRedirectTarget constant = false ∧ ofTarget constant = ⟨(rackName? constant).getD [], []⟩ := by
  have noRedirect : isRedirectTarget constant = false := by
    obtain ⟨first, rest, rfl, upper⟩ := head_of_isConstantPath relative path
    have visible := isBlank_of_isWord (isWord_of_isAsciiUpper upper)
    rw [Bool.eq_false_iff, ne_eq, isRedirectTarget_of_head (by simp [visible])]
    intro starts
    have same : 'r' = first := (List.cons_prefix_cons.mp starts).1
    rw [← same] at upper
    cases upper
  exact ⟨noRedirect, ofTarget_of_silent noRedirect (not_mem_path path (by decide) (by decide))
    (no_symbol_of_isConstantPath relative path (by decide) rfl)
    (no_symbol_of_isConstantPath relative path (by decide) rfl)⟩

end Constant

end Endpoint

namespace Target

theorem handler_text (controller action : Text) (clause : Option Clause) :
    (handler controller action clause).text =
      controller ++ '#' :: (action ++ (clause.map Clause.text).getD []) := by
  simp [text]

theorem text_head {target : Target} (valid : target.Valid) :
    ∃ c, target.text.head? = some c ∧ Text.isBlank c = false := by
  cases target with
  | handler controller action clause =>
    rw [handler_text]
    obtain ⟨c, whole, inController⟩ :=
      valid.1.head?_append ('#' :: (action ++ (clause.map Clause.text).getD []))
    exact ⟨c, whole, valid.1.head_not_blank inController⟩
  | mount constant =>
    rcases head_of_isConstantPath valid.2.1 valid.1 with ⟨c, rest, shape, upper⟩
    have bounds := Text.toNat_of_isAsciiUpper upper
    exact ⟨c, by rw [text, shape]; rfl, Text.isBlank_of_printable (by omega) (by omega)⟩
  | redirect destination => exact ⟨'r', rfl, rfl⟩

theorem text_oneLine {target : Target} (valid : target.Valid) : '\n' ∉ target.text := by
  cases target with
  | handler controller action clause =>
    have inClause : '\n' ∉ (clause.map Clause.text).getD [] := by
      cases clause with
      | none => simp
      | some clause => simp [Clause.text, Text.spaces, clause.oneLine]
    simp [handler_text, valid.1.oneLine, valid.2.2.2.1.oneLine, inClause]
  | mount constant =>
    intro present
    rcases colon_or_word_of_isConstantPath valid.1 present with colon | word
    · cases colon
    · cases word
  | redirect destination =>
    have inMark : '\n' ∉ redirectMark := by decide
    have inDestination : '\n' ∉ destination := valid
    simp [text, inMark, inDestination]

theorem trimRight_handler {controller action : Text} {clause : Option Clause}
    (valid : (handler controller action clause).Valid) :
    Text.trimRight (handler controller action clause).text =
      (handler controller action clause).text := by
  apply Text.trimRight_of_getLast
  intro c last
  cases clause with
  | none =>
    have ends : (handler controller action none).text.getLast? = action.getLast? := by
      have nonempty := valid.2.2.2.1.nonempty
      simp [handler_text, List.getLast?_append, List.getLast?_cons_of_ne_nil nonempty,
        List.getLast?_eq_some_getLast nonempty]
    exact valid.2.2.2.1.getLast_not_blank (ends ▸ last)
  | some clause =>
    have shape : (handler controller action (some clause)).text =
        (controller ++ '#' :: (action ++ Text.spaces clause.gap ++ '{' :: clause.body)) ++ ['}'] := by
      simp [handler_text, Clause.text]
    rw [shape, List.getLast?_concat] at last
    rw [← Option.some.inj last]
    rfl

theorem trimRight_mount {constant : Text} (valid : (mount constant).Valid) :
    Text.trimRight constant = constant := by
  apply Text.trimRight_of_getLast
  intro c last
  rcases colon_or_word_of_isConstantPath valid.1 (List.mem_of_getLast? last) with
    rfl | word
  · rfl
  · exact isBlank_of_isWord word

theorem redirectMark_prefix_trimRight (destination : Text) :
    redirectMark <+: Text.trimRight (redirectMark ++ destination) := by
  rw [Text.trimRight, Text.dropRightWhile_append _ _ _ (by decide)]
  exact List.prefix_append _ _

theorem read_handler {controller action : Text} {clause : Option Clause}
    (valid : (handler controller action clause).Valid) :
    let written := (handler controller action clause).text
    isRedirectTarget written = false ∧ Endpoint.ofTarget written = ⟨controller, action⟩ := by
  rcases text_head valid with ⟨first, head, visible⟩
  rcases valid with ⟨controllerField, noHash, notRedirect, actionField, noBrace⟩
  have noRedirect : isRedirectTarget (handler controller action clause).text = false := by
    rw [Bool.eq_false_iff, ne_eq, isRedirectTarget_of_head (by simp [head, visible]), handler_text]
    intro starts
    exact notRedirect (Text.prefix_of_prefix_append_cons starts redirectMark_no_hash)
  have answer : Endpoint.withoutClause (action ++ (clause.map Clause.text).getD []) = action := by
    cases clause with
    | none => simpa using Endpoint.withoutClause_of_field actionField noBrace
    | some clause => exact Endpoint.withoutClause_of_clause actionField noBrace clause
  refine ⟨noRedirect, ?_⟩
  rw [Endpoint.ofTarget, noRedirect, handler_text, Text.cut?_of_not_mem '#' _ _ noHash]
  simp only [Bool.false_eq_true, ↓reduceIte, answer, controllerField.trimmed]

theorem read_mount {constant : Text} (valid : (mount constant).Valid) :
    isRedirectTarget constant = false ∧ Endpoint.ofTarget constant = ⟨constant, []⟩ := by
  rcases valid with ⟨path, relative, long, ascii⟩
  obtain ⟨noRedirect, answer⟩ := Endpoint.ofTarget_constant relative path
  rw [(Endpoint.rackName?_eq_self_iff relative path).mpr ⟨long, ascii⟩] at answer
  exact ⟨noRedirect, answer⟩

theorem read_redirect (destination : Text) :
    let written := Text.trimRight (redirectMark ++ destination)
    isRedirectTarget written = true ∧ Endpoint.ofTarget written = ⟨[], []⟩ := by
  have starts := redirectMark_prefix_trimRight destination
  have first : ∀ c, (Text.trimRight (redirectMark ++ destination)).head? = some c →
      Text.isBlank c = false := by
    rcases starts with ⟨rest, whole⟩
    intro c head
    rw [← whole] at head
    rw [← Option.some.inj head]
    rfl
  have isRedirect := (isRedirectTarget_of_head first).mpr starts
  exact ⟨isRedirect, by rw [Endpoint.ofTarget, if_pos isRedirect]⟩

theorem read_trimRight_text {target : Target} (valid : target.Valid) :
    let written := Text.trimRight target.text
    Endpoint.ofTarget written = target.endpoint ∧
      RouteType.classify target.endpoint.controller target.endpoint.action written = target.type := by
  cases target with
  | handler controller action clause =>
    rcases read_handler valid with ⟨noRedirect, answer⟩
    have nonempty : action.isEmpty = false := by simpa using valid.2.2.2.1.nonempty
    rw [trimRight_handler valid]
    refine ⟨answer, ?_⟩
    simp [RouteType.classify, noRedirect, endpoint, nonempty, type]
  | mount constant =>
    rcases read_mount valid with ⟨noRedirect, answer⟩
    have oneLine := text_oneLine valid
    have isConstant := isConstantName_of_isConstantPath valid.1 oneLine
    have nonempty : constant.isEmpty = false := by
      rw [List.isEmpty_eq_false_iff]
      rintro rfl
      cases valid.2.2.1
    have stop : Text.trimRight (mount constant).text = constant := trimRight_mount valid
    rw [stop]
    refine ⟨answer, ?_⟩
    simp [RouteType.classify, noRedirect, endpoint, nonempty, isConstant, type]
  | redirect destination =>
    rcases read_redirect destination with ⟨isRedirect, answer⟩
    refine ⟨answer, ?_⟩
    rw [RouteType.classify, if_pos (by exact isRedirect)]
    rfl

end Target

end RouteReport
