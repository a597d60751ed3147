import RouteReport.Proofs.Console.MarkupLaws
import RouteReport.Proofs.TextSearch

namespace RouteReport.Console

def MarkupPart.tag? : MarkupPart → Option Tag
  | .text _ => none
  | .tag found _ => some found

def tags (markup : Text) : List Tag := (parts markup).filterMap MarkupPart.tag?

def closesAll (opened : List Text) : List Tag → Bool
  | [] => true
  | tag :: rest => (applyTag opened tag 0).toOption.any (closesAll · rest)

theorem toOption_applyTag (opened : List Text) (tag : Tag) (position other : Nat) :
    (applyTag opened tag position).toOption = (applyTag opened tag other).toOption := by
  unfold applyTag
  split
  · dsimp only
    split
    · split <;> rfl
    · split <;> rfl
  · rfl

theorem isOk_shownParts (opened : List Text) (pieces : List MarkupPart) :
    (shownParts opened pieces).isOk = closesAll opened (pieces.filterMap MarkupPart.tag?) := by
  induction pieces generalizing opened with
  | nil => rfl
  | cons piece rest ih =>
    cases piece with
    | text shownText =>
      rw [shownParts, List.filterMap_cons_none rfl, ← ih]
      cases shownParts opened rest <;> rfl
    | tag found position =>
      have first : (MarkupPart.tag found position :: rest).filterMap MarkupPart.tag? =
          found :: rest.filterMap MarkupPart.tag? := rfl
      rw [shownParts, first, closesAll, toOption_applyTag opened found 0 position]
      cases applyTag opened found position with
      | error fault => rfl
      | ok next => exact ih next

theorem isOk_shown (markup : Text) : (shown markup).isOk = closesAll [] (tags markup) :=
  isOk_shownParts [] (parts markup)

theorem tags_textPart (textBackward : Text) : (textPart textBackward).filterMap MarkupPart.tag? = [] := by
  unfold textPart
  split <;> rfl

theorem tags_from_tag {c : Char} {rest content : Text} {slashes : Nat}
    (found : tagAt? (c :: rest) = some (slashes, content)) (position : Nat) (before : Text) :
    (partsFrom position before (c :: rest)).filterMap MarkupPart.tag? =
      (if slashes % 2 = 1 then [] else [tagOf content]) ++
        (partsFrom (position + (slashes + content.length + 2)) []
          (rest.drop (slashes + content.length + 1))).filterMap MarkupPart.tag? := by
  have noTags : (if (List.replicate (slashes / 2) '\\').isEmpty then []
      else [MarkupPart.text (List.replicate (slashes / 2) '\\')]).filterMap MarkupPart.tag? = [] := by
    split <;> rfl
  rw [partsFrom, found]
  simp only [List.filterMap_append, tags_textPart, noTags, List.nil_append]
  congr 1
  by_cases odd : slashes % 2 = 1 <;> simp [odd, MarkupPart.tag?]

theorem tags_partsFrom (position other : Nat) (before otherBefore text : Text) :
    (partsFrom position before text).filterMap MarkupPart.tag? =
      (partsFrom other otherBefore text).filterMap MarkupPart.tag? := by
  induction position, before, text using partsFrom.induct generalizing other otherBefore with
  | case1 position before => simp only [partsFrom, tags_textPart]
  | case2 position before c rest absent ih =>
    rw [partsFrom, partsFrom, absent]
    exact ih _ _
  | case3 position before c rest slashes content found length ih =>
    rw [tags_from_tag found, tags_from_tag found]
    exact congrArg _ (ih _ _)

theorem tags_cons_of_no_tag {c : Char} {rest : Text} (absent : tagAt? (c :: rest) = none) :
    tags (c :: rest) = tags rest := by
  rw [tags, parts, partsFrom, absent]
  exact tags_partsFrom _ _ _ _ _

theorem tags_cons_of_tag {c : Char} {rest content : Text} {slashes : Nat}
    (found : tagAt? (c :: rest) = some (slashes, content)) :
    tags (c :: rest) = (if slashes % 2 = 1 then [] else [tagOf content]) ++
      tags (rest.drop (slashes + content.length + 1)) := by
  rw [tags, parts, tags_from_tag found]
  exact congrArg _ (tags_partsFrom _ _ _ _ _)

theorem tagAt?_plain {c : Char} (plain : isPlainChar c = true) (rest : Text) :
    tagAt? (c :: rest) = none := by
  obtain ⟨noBracket, noSlash⟩ : c ≠ '[' ∧ c ≠ '\\' := by simpa [isPlainChar] using plain
  have run : Text.run (c :: rest) (· == '\\') = ([], c :: rest) := by simp [Text.run, noSlash]
  rw [tagAt?, run]
  dsimp only
  split
  · rename_i shape
    exact absurd (List.cons.inj shape).1 noBracket
  · rfl

theorem tags_plain_append {front : Text} (plain : isPlain front = true) (rest : Text) :
    tags (front ++ rest) = tags rest := by
  induction front with
  | nil => rfl
  | cons c front ih =>
    obtain ⟨first, later⟩ : isPlainChar c = true ∧ isPlain front = true := by
      simpa [isPlain] using plain
    rw [List.cons_append, tags_cons_of_no_tag (tagAt?_plain first _), ih later]

theorem opensTag_of_suffix {text later : Text} (suffix : later <:+ text) (noTag : opensTag text = false) :
    opensTag later = false := by
  obtain ⟨front, rfl⟩ := suffix
  induction front with
  | nil => exact noTag
  | cons c front ih => exact ih (Bool.or_eq_false_iff.mp noTag).2

theorem tagAt?_eq_none_of_opensTag {text : Text} (noTag : opensTag text = false) : tagAt? text = none := by
  unfold tagAt?
  dsimp only [Text.run]
  split
  · rename_i c more shape
    have within : opensTag (text.dropWhile (· == '\\')) = false :=
      opensTag_of_suffix (List.dropWhile_suffix _) noTag
    rw [shape] at within
    have starts : startsTag c = false := by simpa using (Bool.or_eq_false_iff.mp within).1
    simp [starts]
  · rfl

theorem tags_of_opensTag {text : Text} (noTag : opensTag text = false) : tags text = [] := by
  induction text with
  | nil => simp [tags, parts, partsFrom, tags_textPart]
  | cons c rest ih =>
    rw [tags_cons_of_no_tag (tagAt?_eq_none_of_opensTag noTag)]
    exact ih (Bool.or_eq_false_iff.mp noTag).2

theorem tagAt?_bracket {c : Char} {body : Text} (starts : startsTag c = true)
    (inside : ∀ d ∈ body, d ≠ '[' ∧ d ≠ ']') (rest : Text) :
    tagAt? ('[' :: (c :: body ++ ']' :: rest)) = some (0, c :: body) := by
  have slashes : Text.run ('[' :: (c :: body ++ ']' :: rest)) (· == '\\') =
      ([], '[' :: c :: (body ++ ']' :: rest)) := by simp [Text.run]
  have run : Text.run (body ++ ']' :: rest) (fun d => d != '[' && d != ']') = (body, ']' :: rest) := by
    apply Text.run_append
    · intro d present
      simpa using inside d present
    · simp
  rw [tagAt?, slashes]
  simp only [run, starts, List.head?_cons, List.length_nil, Bool.true_and, decide_true, ↓reduceIte]

theorem tags_bracket {c : Char} {body : Text} (starts : startsTag c = true)
    (inside : ∀ d ∈ body, d ≠ '[' ∧ d ≠ ']') (rest : Text) :
    tags ('[' :: (c :: body ++ ']' :: rest)) = tagOf (c :: body) :: tags rest := by
  rw [tags_cons_of_tag (tagAt?_bracket starts inside rest)]
  simp

theorem closesAll_of_unmatched {tag : Tag} {name : Text} (slash : tag.name = '/' :: name)
    (rest : List Tag) : closesAll [] (tag :: rest) = false := by
  have fails : (applyTag [] tag 0).toOption = none := by
    rw [applyTag.eq_def, slash]
    split
    · dsimp only
      split <;> rfl
    · rename_i other
      exact (other name rfl).elim
  rw [closesAll, fails]
  rfl

theorem tagOf_slash (name : Text) : ∃ more, (tagOf ('/' :: name)).name = '/' :: more := by
  unfold tagOf
  cases found : Text.cut? ('/' :: name) ['='] with
  | none => exact ⟨name, rfl⟩
  | some parts =>
    have whole := Text.append_of_cut? found
    cases front : parts.1 with
    | nil => simp [front] at whole
    | cons first more =>
      rw [front, List.cons_append, List.cons_append] at whole
      exact ⟨more, front.trans (by rw [(List.cons.inj whole).1])⟩

namespace IsStyleName

variable {style : Text} (named : IsStyleName style)

include named

theorem not_mem {c : Char} (other : Text.isAsciiLower c = false) (solid : c ≠ ' ') : c ∉ style := by
  intro present
  have inside := List.all_eq_true.mp named.inside c present
  rw [other, Bool.false_or] at inside
  exact solid (eq_of_beq inside)

theorem tagOf_style : tagOf style = ⟨style, none⟩ := by
  rw [tagOf, Text.cut?_singleton_eq_none_iff.mpr (named.not_mem (by decide) (by decide))]

theorem tagOf_closing : tagOf ('/' :: style) = ⟨'/' :: style, none⟩ := by
  have noValue : '=' ∉ '/' :: style :=
    List.not_mem_cons_of_ne_of_not_mem (by decide) (named.not_mem (by decide) (by decide))
  rw [tagOf, Text.cut?_singleton_eq_none_iff.mpr noValue]

theorem tags_closing (rest : Text) :
    tags ('[' :: '/' :: (style ++ ']' :: rest)) = ⟨'/' :: style, none⟩ :: tags rest := by
  rw [← named.tagOf_closing]
  apply tags_bracket (by decide)
  intro d present
  constructor <;> rintro rfl
  · exact named.not_mem (by decide) (by decide) present
  · exact named.not_mem (by decide) (by decide) present

theorem exists_cons : ∃ c body, style = c :: body ∧ Text.isAsciiLower c = true := by
  have start := named.start
  cases shape : style with
  | nil => simp [shape] at start
  | cons c body => exact ⟨c, body, rfl, by simpa [shape] using start⟩

theorem tags_opening (rest : Text) :
    tags ('[' :: (style ++ ']' :: rest)) = ⟨style, none⟩ :: tags rest := by
  obtain ⟨c, body, rfl, lower⟩ := named.exists_cons
  rw [← named.tagOf_style]
  apply tags_bracket
  · simp [startsTag, lower]
  · intro d present
    have member := List.mem_cons_of_mem c present
    constructor <;> rintro rfl
    · exact named.not_mem (by decide) (by decide) member
    · exact named.not_mem (by decide) (by decide) member

theorem closesAll_around (opened : List Text) (rest : List Tag) :
    closesAll opened (⟨style, none⟩ :: ⟨'/' :: style, none⟩ :: rest) = closesAll opened rest := by
  obtain ⟨c, body, rfl, lower⟩ := named.exists_cons
  have notSlash : c ≠ '/' := by
    rintro rfl
    cases lower
  have opens : applyTag opened ⟨c :: body, none⟩ 0 = .ok (normalStyle (c :: body) :: opened) := by
    rw [applyTag.eq_def]
    split
    · rename_i name shape
      exact absurd (List.cons.inj shape).1 notSlash
    · rfl
  have closes : applyTag (normalStyle (c :: body) :: opened) ⟨'/' :: c :: body, none⟩ 0 = .ok opened := by
    simp [applyTag, named.trimmed, closeTag?]
  rw [closesAll, opens]
  simp only [Except.toOption, Option.any_some]
  rw [closesAll, closes]
  rfl

end IsStyleName

theorem ignoresFront_shown (isOk : Bool) : IgnoresFront fun markup => (shown markup).isOk = isOk where
  behind before later := by rwa [isOk_shown, tags_plain_append before, ← isOk_shown]
  around {style body rest} named between later := by
    have whole : styled style body ++ rest =
        '[' :: (style.toList ++ ']' :: (body ++ '[' :: '/' :: (style.toList ++ ']' :: rest))) := by
      simp [styled]
    rwa [isOk_shown, whole, named.tags_opening, tags_plain_append between, named.tags_closing,
      named.closesAll_around, ← isOk_shown]

theorem exists_bind_ok {ε α β : Type} {result : Except ε α} {next : α → Except ε β} :
    (∃ b, result >>= next = .ok b) ↔ ∃ a, result = .ok a ∧ ∃ b, next a = .ok b := by
  cases result <;> simp [bind, Except.bind]

@[simp] theorem exists_pure_ok {ε α : Type} (value : α) :
    ∃ result, (pure value : Except ε α) = .ok result := ⟨value, rfl⟩

theorem mapM_isOk_iff {ε α β : Type} {f : α → Except ε β} {inputs : List α} :
    (∃ outputs, inputs.mapM f = .ok outputs) ↔ ∀ input ∈ inputs, ∃ output, f input = .ok output := by
  induction inputs with
  | nil => simp
  | cons input rest ih =>
    rw [List.mapM_cons, List.forall_mem_cons, ← ih]
    simp only [exists_bind_ok, exists_pure_ok, and_true, exists_and_right]

theorem isOk_iff {ε α : Type} {result : Except ε α} : result.isOk = true ↔ ∃ a, result = .ok a := by
  cases result <;> simp [Except.isOk, Except.toBool]

theorem plainRenderer_draw_isOk_iff {cells : Nat} {drawing : Drawing} :
    ((plainRenderer cells).draw drawing).isOk = true ↔
      ∀ markup ∈ drawing.markups, (shown markup).isOk = true := by
  rw [isOk_iff]
  cases drawing with
  | lines markup =>
    simp only [plainRenderer, Drawing.markups, exists_bind_ok, exists_pure_ok, and_true, isOk_iff,
      List.forall_mem_singleton]
  | panel title content =>
    simp only [plainRenderer, Drawing.markups, exists_bind_ok, exists_pure_ok, and_true, isOk_iff,
      exists_and_right, List.forall_mem_cons, List.not_mem_nil, false_implies, implies_true]
  | table title columns =>
    simp only [plainRenderer, Drawing.markups, Column.shown, exists_bind_ok, exists_pure_ok, and_true, isOk_iff,
      exists_and_right, List.forall_mem_cons, mapM_isOk_iff, List.forall_mem_flatMap]
    exact and_comm

theorem readsMarkup_plainRenderer (cells : Nat) :
    (plainRenderer cells).ReadsMarkup (fun markup => (shown markup).isOk = true)
      fun markup => (shown markup).isOk = false where
  accepts := ignoresFront_shown true
  rejects := ignoresFront_shown false
  untagged noTag := by
    rw [isOk_shown, tags_of_opensTag noTag]
    rfl
  unmatched {name} noOpening noClosing rest := by
    have inside : ∀ d ∈ name, d ≠ '[' ∧ d ≠ ']' := by
      intro d present
      constructor <;> rintro rfl <;> contradiction
    have bracket : tags ('[' :: '/' :: (name ++ ']' :: rest)) = tagOf ('/' :: name) :: tags rest :=
      tags_bracket (by decide) inside rest
    obtain ⟨more, slash⟩ := tagOf_slash name
    rw [isOk_shown, bracket]
    exact closesAll_of_unmatched slash _
  draws readable := isOk_iff.mp (plainRenderer_draw_isOk_iff.mpr readable)
  fails {drawing markup} handed unreadable := by
    cases drawn : (plainRenderer cells).draw drawing with
    | error fault => exact ⟨fault, rfl⟩
    | ok lines =>
      have readable := plainRenderer_draw_isOk_iff.mp (isOk_iff.mpr ⟨lines, drawn⟩) markup handed
      exact absurd (readable.symm.trans unreadable) (by decide)

end RouteReport.Console
