import RouteReport.Proofs.Task.LockFile

namespace RouteReport

namespace Framework

def quotedGem? : Text → Option Text
  | [] => none
  | quote :: rest =>
    if isQuote quote then
      ((Text.afterPrefix? rest "rails".toList).filter (·.head?.any isQuote) <|>
        (Text.afterPrefix? rest "railties".toList).filter (·.head?.any isQuote)).map (·.drop 1)
    else none

/-- What follows a declaration of the framework at the start of a text, up to its name. -/
def namedAt? (text : Text) : Option Text :=
  (Text.afterPrefix? text "gem".toList).bind fun rest =>
    if rest.head?.any Text.isBlank then quotedGem? (Text.trimLeft rest) else none

/-- What follows the name of the framework, where it is declared first. -/
def gemNamed? : Text → Option Text
  | [] => none
  | c :: rest => namedAt? (c :: rest) <|> gemNamed? rest

/-- The version that follows the name. -/
def versionAfter? (after : Text) : Option Text :=
  (Text.afterPrefix? (Text.trimLeft after) [',']).bind fun rest => quotedText? rest.trimLeft

/-- The text may go on with a version: it ends at the comma, or within the quotes behind it. -/
def opensVersion (after : Text) : Bool :=
  (Text.afterPrefix? (Text.trimLeft after) [',']).any fun rest =>
    match Text.trimLeft rest with
    | [] => true
    | quote :: body => isQuote quote && body.all (!isQuote ·)

/-- The text may go on with the name of a gem. -/
def endsInGem : Text → Bool
  | [] => false
  | c :: rest =>
    (Text.afterPrefix? (c :: rest) "gem".toList).any
        (fun gap => !gap.isEmpty && gap.all Text.isBlank) || endsInGem rest

def IsGemWord (text : Text) : Prop :=
  ∃ gap, gap ≠ [] ∧ (∀ c ∈ gap, Text.isBlank c = true) ∧ text = "gem".toList ++ gap

def quotedGems : List Text :=
  ['\'', '"'].flatMap fun opening => frameworkGems.flatMap fun gem =>
    ['\'', '"'].map fun closing => opening :: (gem ++ [closing])

section Declaration

theorem isQuote_iff {c : Char} : isQuote c = true ↔ c = '\'' ∨ c = '"' := by
  simp [isQuote]

theorem quotedGems_solid : ∀ quoted ∈ quotedGems, ∀ c ∈ quoted, Text.isBlank c = false := by decide

theorem trimLeft_quotedGem {quoted : Text} (member : quoted ∈ quotedGems) (after : Text) :
    Text.trimLeft (quoted ++ after) = quoted ++ after := by
  have nonempty : ∀ quoted ∈ quotedGems, quoted ≠ [] := by decide
  apply Text.trimLeft_of_head
  intro c first
  rw [List.head?_append_of_ne_nil _ (nonempty quoted member)] at first
  exact quotedGems_solid quoted member c (List.mem_of_head? first)

theorem quotedGem?_eq_some_iff {text after : Text} :
    quotedGem? text = some after ↔ ∃ quoted ∈ quotedGems, text = quoted ++ after := by
  constructor
  · intro found
    cases text with
    | nil => cases found
    | cons quote rest =>
      rw [quotedGem?] at found
      split at found
      · next opening =>
        obtain ⟨tail, hit, rfl⟩ := Option.map_eq_some_iff.mp found
        have named : ∃ gem ∈ frameworkGems, rest = gem ++ tail ∧ tail.head?.any isQuote = true := by
          rcases (Option.orElse_eq_some _ _ _).mp hit with first | ⟨-, second⟩
          · obtain ⟨starts, closing⟩ := Option.filter_eq_some_iff.mp first
            exact ⟨_, by decide, Text.afterPrefix?_eq_some_iff.mp starts, closing⟩
          · obtain ⟨starts, closing⟩ := Option.filter_eq_some_iff.mp second
            exact ⟨_, by decide, Text.afterPrefix?_eq_some_iff.mp starts, closing⟩
        obtain ⟨gem, member, rfl, closing⟩ := named
        obtain ⟨last, first, closing⟩ := (Option.any_eq_true _ _).mp closing
        obtain ⟨after, rfl⟩ := List.head?_eq_some_iff.mp first
        refine ⟨quote :: (gem ++ [last]), ?_, by simp⟩
        simp only [quotedGems, List.mem_flatMap, List.mem_map]
        exact ⟨quote, by simpa using isQuote_iff.mp opening, gem, member, last,
          by simpa using isQuote_iff.mp closing, rfl⟩
      · cases found
  · rintro ⟨quoted, member, rfl⟩
    simp only [quotedGems, frameworkGems, List.mem_flatMap, List.mem_map, List.mem_cons,
      List.not_mem_nil, or_false] at member
    obtain ⟨_, rfl | rfl, _, rfl | rfl, _, rfl | rfl, rfl⟩ := member <;> rfl

theorem namedAt?_word {word : Text} (begun : IsGemWord word) (rest : Text) :
    namedAt? (word ++ rest) = quotedGem? (Text.trimLeft rest) := by
  obtain ⟨gap, some_gap, blank, rfl⟩ := begun
  obtain ⟨c, others, rfl⟩ := List.exists_cons_of_ne_nil some_gap
  rw [List.append_assoc, namedAt?, Text.afterPrefix?_append, Option.bind_some,
    Text.trimLeft_append_of_blank blank, List.cons_append, List.head?_cons, Option.any_some,
    if_pos (blank c List.mem_cons_self)]

theorem namedAt?_eq_some_iff {text after : Text} : namedAt? text = some after ↔
    ∃ word quoted, IsGemWord word ∧ quoted ∈ quotedGems ∧ text = word ++ (quoted ++ after) := by
  constructor
  · intro found
    obtain ⟨rest, starts, named⟩ := Option.bind_eq_some_iff.mp found
    split at named
    · next begins =>
      obtain ⟨quoted, member, shape⟩ := quotedGem?_eq_some_iff.mp named
      refine ⟨_, quoted, ⟨rest.takeWhile Text.isBlank, ?_, fun _ => List.mem_takeWhile_imp, rfl⟩,
        member, ?_⟩
      · match rest, begins with
        | c :: others, blank => simp [show Text.isBlank c = true from blank]
      · rw [← shape, List.append_assoc, Text.trimLeft, List.takeWhile_append_dropWhile]
        exact Text.afterPrefix?_eq_some_iff.mp starts
    · cases named
  · rintro ⟨word, quoted, begun, member, rfl⟩
    rw [namedAt?_word begun, trimLeft_quotedGem member]
    exact quotedGem?_eq_some_iff.mpr ⟨quoted, member, rfl⟩

theorem gemDeclaration?_eq (text : Text) : gemDeclaration? text =
    (if text.head?.any Text.isBlank then quotedGem? (Text.trimLeft text) else none).map
      fun after => ⟨true, versionAfter? after⟩ := by
  cases text with
  | nil => rfl
  | cons c rest =>
    cases blank : Text.isBlank c with
    | false => simp [gemDeclaration?, Text.run, blank, guard]
    | true =>
      have gap : (Text.run (c :: rest) Text.isBlank).1.isEmpty = false := by simp [Text.run, blank]
      have begins : (c :: rest).head?.any Text.isBlank = true := blank
      have tail : (Text.run (c :: rest) Text.isBlank).2 = Text.trimLeft (c :: rest) := rfl
      rw [if_pos begins, gemDeclaration?]
      dsimp only
      rw [gap, tail]
      cases Text.trimLeft (c :: rest) with
      | nil => rfl
      | cons quote others =>
        rw [quotedGem?]
        dsimp only
        cases isQuote quote with
        | false => rfl
        | true =>
          rw [if_pos rfl, Option.map_map]
          exact Option.map_eq_bind.symm

theorem declaration?_eq (text : Text) :
    declaration? text = (gemNamed? text).map fun after => ⟨true, versionAfter? after⟩ := by
  induction text with
  | nil => rfl
  | cons c rest ih =>
    have here : (Text.afterPrefix? (c :: rest) "gem".toList >>= gemDeclaration?) =
        (namedAt? (c :: rest)).map fun after => ⟨true, versionAfter? after⟩ := by
      rw [namedAt?, Option.map_bind, Option.bind_eq_bind]
      exact congrArg _ (funext gemDeclaration?_eq)
    rw [declaration?, gemNamed?, ih, here]
    cases namedAt? (c :: rest) <;> rfl

end Declaration

section Continued

theorem namedAt?_append_of_some {text after : Text} (named : namedAt? text = some after) (rest : Text) :
    namedAt? (text ++ rest) = some (after ++ rest) := by
  obtain ⟨word, quoted, begun, member, rfl⟩ := namedAt?_eq_some_iff.mp named
  exact namedAt?_eq_some_iff.mpr ⟨word, quoted, begun, member, by simp⟩

theorem namedAt?_append {text : Text} {last : Char} (blank : Text.isBlank last = true)
    {rest after : Text} (found : namedAt? (text ++ [last] ++ rest) = some after) :
    (∃ before, namedAt? (text ++ [last]) = some before) ∨ IsGemWord (text ++ [last]) := by
  obtain ⟨_, quoted, ⟨gap, some_gap, blanks, rfl⟩, member, shape⟩ := namedAt?_eq_some_iff.mp found
  have inFront {mark front back : Text} (solid : ∀ c ∈ mark, Text.isBlank c = false)
      (starts : mark <+: front ++ [last] ++ back) : mark <+: front := by
    rw [List.append_assoc] at starts
    apply Text.prefix_of_prefix_append_cons starts
    intro present
    rw [solid last present] at blank
    cases blank
  rw [List.append_assoc "gem".toList] at shape
  obtain ⟨middle, rfl⟩ := inFront (by decide) ⟨_, shape.symm⟩
  rw [List.append_assoc, List.append_assoc, List.append_cancel_left_eq, ← List.append_assoc] at shape
  -- The text ends either within the white space or behind the quoted gem.
  have within (allBlank : ∀ c ∈ middle ++ [last], Text.isBlank c = true) :
      IsGemWord ("gem".toList ++ middle ++ [last]) :=
    ⟨middle ++ [last], by simp, allBlank, by simp⟩
  rcases List.append_eq_append_iff.mp shape with ⟨more, whole, -⟩ | ⟨more, whole, tail⟩
  · subst whole
    exact .inr (within (List.forall_mem_append.mp blanks).1)
  · rcases List.eq_nil_or_concat' more with rfl | ⟨front, c, rfl⟩
    · rw [List.append_nil] at whole
      exact .inr (within (whole ▸ blanks))
    · rw [← List.append_assoc] at whole
      obtain ⟨rfl, same⟩ := List.append_inj' whole rfl
      obtain rfl := List.singleton_inj.mp same
      obtain ⟨before, rfl⟩ := inFront (quotedGems_solid quoted member) ⟨after, tail⟩
      refine .inl ⟨before ++ [last], namedAt?_eq_some_iff.mpr ?_⟩
      exact ⟨_, quoted, ⟨gap, some_gap, blanks, rfl⟩, member, by simp⟩

theorem endsInGem_cons_iff {c : Char} {others : Text} :
    endsInGem (c :: others) = true ↔ IsGemWord (c :: others) ∨ endsInGem others = true := by
  rw [endsInGem, Bool.or_eq_true]
  apply or_congr_left
  constructor
  · intro begun
    obtain ⟨gap, starts, blank⟩ := (Option.any_eq_true _ _).mp begun
    rw [Bool.and_eq_true, Bool.not_eq_true', List.isEmpty_eq_false_iff, List.all_eq_true] at blank
    exact ⟨gap, blank.1, blank.2, Text.afterPrefix?_eq_some_iff.mp starts⟩
  · rintro ⟨gap, some_gap, blank, shape⟩
    rw [Text.afterPrefix?_eq_some_iff.mpr shape]
    simpa [some_gap] using blank

theorem unnamed_of_not_mem {text : Text} (absent : 'g' ∉ text) :
    gemNamed? text = none ∧ endsInGem text = false := by
  induction text with
  | nil => exact ⟨rfl, rfl⟩
  | cons c rest ih =>
    rw [List.mem_cons, not_or] at absent
    obtain ⟨unnamed, noGem⟩ := ih absent.2
    have other : Text.afterPrefix? (c :: rest) "gem".toList = none :=
      Text.afterPrefix?_eq_none fun starts => absent.1 (List.cons_prefix_cons.mp starts).1
    rw [gemNamed?, namedAt?, endsInGem, other, unnamed, noGem]
    exact ⟨rfl, rfl⟩

theorem IsGemWord.unnamed_tail {c : Char} {others : Text} (begun : IsGemWord (c :: others)) :
    gemNamed? others = none ∧ endsInGem others = false := by
  obtain ⟨gap, _, blank, shape⟩ := begun
  obtain ⟨-, rfl⟩ := List.cons.inj shape
  apply unnamed_of_not_mem
  intro present
  rcases List.mem_append.mp present with inWord | inGap
  · exact absurd inWord (by decide)
  · exact absurd (blank _ inGap) (by decide)

section Step

variable {c : Char} {others : Text}
  (ended : ∀ d, (c :: others).getLast? = some d → Text.isBlank d = true)

include ended

theorem ended_tail : ∀ d, others.getLast? = some d → Text.isBlank d = true := by
  intro d last
  apply ended
  rw [List.getLast?_cons, last]
  rfl

theorem namedAt?_cons_append (unnamed : namedAt? (c :: others) = none) (rest : Text) :
    IsGemWord (c :: others) ∨ namedAt? (c :: others ++ rest) = none := by
  obtain ⟨text, last, shape⟩ :=
    (List.eq_nil_or_concat' (c :: others)).resolve_left (List.cons_ne_nil c others)
  rw [shape] at ended unnamed ⊢
  have blank := ended last List.getLast?_concat
  cases found : namedAt? (text ++ [last] ++ rest) with
  | none => exact .inr rfl
  | some after =>
    rcases namedAt?_append blank found with ⟨before, named⟩ | begun
    · rw [unnamed] at named
      cases named
    · exact .inl begun

end Step

section Search

variable {text : Text} (ended : ∀ c, text.getLast? = some c → Text.isBlank c = true) (rest : Text)

include ended

theorem gemNamed?_append_of_some {after : Text} (named : gemNamed? text = some after) :
    gemNamed? (text ++ rest) = some (after ++ rest) := by
  induction text with
  | nil => cases named
  | cons c others ih =>
    rw [List.cons_append, gemNamed?, ← List.cons_append]
    rw [gemNamed?] at named
    cases here : namedAt? (c :: others) with
    | some before =>
      rw [here] at named
      rw [namedAt?_append_of_some here, ← Option.some.inj named]
      rfl
    | none =>
      rw [here] at named
      rcases namedAt?_cons_append ended here rest with begun | stillNone
      · have nothing : gemNamed? others = some after := named
        rw [begun.unnamed_tail.1] at nothing
        cases nothing
      · rw [stillNone]
        exact ih (ended_tail ended) named

theorem gemNamed?_append_of_none (unnamed : gemNamed? text = none) : gemNamed? (text ++ rest) =
    ((if endsInGem text then quotedGem? (Text.trimLeft rest) else none) <|> gemNamed? rest) := by
  induction text with
  | nil => rfl
  | cons c others ih =>
    rw [gemNamed?, Option.orElse_eq_none] at unnamed
    rw [List.cons_append, gemNamed?, ← List.cons_append, ih (ended_tail ended) unnamed.2]
    by_cases begun : IsGemWord (c :: others)
    · rw [if_pos (endsInGem_cons_iff.mpr (.inl begun)), begun.unnamed_tail.2, namedAt?_word begun]
      rfl
    · have same : endsInGem (c :: others) = endsInGem others := by
        rw [Bool.eq_iff_iff, endsInGem_cons_iff, or_iff_right begun]
      rw [(namedAt?_cons_append ended unnamed.1 rest).resolve_left begun, same]
      rfl

end Search

end Continued

section Version

theorem quotedText?_eq_none {quote : Char} (other : isQuote quote = false) (rest : Text) :
    quotedText? (quote :: rest) = none := by
  simp [quotedText?, other]

theorem quotedText?_append {quote : Char} {body : Text} (opening : isQuote quote = true)
    (unclosed : ∀ c ∈ body, isQuote c = false) (rest : Text) :
    quotedText? (quote :: (body ++ rest)) =
      if body ++ (Text.run rest (!isQuote ·)).1 ≠ [] ∧ (Text.run rest (!isQuote ·)).2 ≠ [] then
        some (body ++ (Text.run rest (!isQuote ·)).1)
      else none := by
  have within : ∀ c ∈ body, (!isQuote c) = true := fun c present => by rw [unclosed c present]; rfl
  have run : Text.run (body ++ rest) (!isQuote ·) =
      (body ++ (Text.run rest (!isQuote ·)).1, (Text.run rest (!isQuote ·)).2) := by
    rw [Text.run, List.takeWhile_append_of_pos within, List.dropWhile_append_of_pos within]
    rfl
  rw [quotedText?, run]
  simp [opening]

theorem quotedText?_closed {quote : Char} {body : Text} (opening : isQuote quote = true)
    (closes : ∃ c ∈ body, isQuote c = true) (rest : Text) :
    quotedText? (quote :: (body ++ rest)) = quotedText? (quote :: body) := by
  have unclosed : ∀ c ∈ (Text.run body (!isQuote ·)).1, isQuote c = false := by
    intro c present
    simpa using Text.mem_of_mem_run present
  have shape := Text.run_eq_append body (!isQuote ·)
  cases tail : (Text.run body (!isQuote ·)).2 with
  | nil =>
    obtain ⟨c, present, closing⟩ := closes
    rw [tail, List.append_nil] at shape
    rw [shape] at present
    rw [unclosed c present] at closing
    cases closing
  | cons last others =>
    have closing : isQuote last = true := by
      simpa using Text.head_run_rest (List.head?_eq_some_iff.mpr ⟨others, tail⟩)
    have ended (more : Text) : Text.run (last :: more) (!isQuote ·) = ([], last :: more) := by
      simp [Text.run, closing]
    rw [tail] at shape
    rw [shape, List.append_assoc, quotedText?_append opening unclosed,
      quotedText?_append opening unclosed, List.cons_append, ended, ended]
    simp

section Comma

variable {after rest : Text} (comma : Text.trimLeft after = ',' :: rest)

include comma

theorem versionAfter?_comma : versionAfter? after = quotedText? (Text.trimLeft rest) := by
  rw [versionAfter?, comma]
  rfl

theorem opensVersion_comma : opensVersion after =
    match Text.trimLeft rest with
    | [] => true
    | quote :: body => isQuote quote && body.all (!isQuote ·) := by
  rw [opensVersion, comma]
  rfl

theorem versionAfter?_comma_append (more : Text) :
    versionAfter? (after ++ more) = quotedText? (Text.trimLeft (rest ++ more)) := by
  apply versionAfter?_comma
  rw [Text.trimLeft_append, if_neg (by rw [comma]; exact List.cons_ne_nil _ _), comma]
  rfl

end Comma

theorem versionAfter?_of_not_comma {after : Text} (noComma : (Text.trimLeft after).head? ≠ some ',') :
    versionAfter? after = none ∧ opensVersion after = false := by
  have other : Text.afterPrefix? (Text.trimLeft after) [','] = none := by
    apply Text.afterPrefix?_eq_none
    rintro ⟨rest, shape⟩
    exact noComma (by rw [← shape]; rfl)
  rw [versionAfter?, opensVersion, other]
  exact ⟨rfl, rfl⟩

theorem versionAfter?_append {after : Text} (closed : opensVersion after = false) {more : Text}
    (noComma : (Text.trimLeft more).head? ≠ some ',') :
    versionAfter? (after ++ more) = versionAfter? after := by
  by_cases comma : (Text.trimLeft after).head? = some ','
  · obtain ⟨rest, shape⟩ := List.head?_eq_some_iff.mp comma
    rw [versionAfter?_comma_append shape, versionAfter?_comma shape, Text.trimLeft_append]
    rw [opensVersion_comma shape] at closed
    cases trimmed : Text.trimLeft rest with
    | nil => simp [trimmed] at closed
    | cons quote body =>
      rw [if_neg (List.cons_ne_nil _ _)]
      cases opening : isQuote quote with
      | false => rw [List.cons_append, quotedText?_eq_none opening, quotedText?_eq_none opening]
      | true =>
        have closes : ∃ c ∈ body, isQuote c = true := by simpa [trimmed, opening] using closed
        exact quotedText?_closed opening closes more
  · rw [(versionAfter?_of_not_comma comma).1]
    apply (versionAfter?_of_not_comma _).1
    rw [Text.trimLeft_append]
    split
    · exact noComma
    · next nonempty => rwa [List.head?_append_of_ne_nil _ nonempty]

theorem versionAfter?_of_opens {after : Text} (opens : opensVersion after = true) :
    (∀ more, versionAfter? (after ++ more) = quotedText? (Text.trimLeft more)) ∨
      ∃ quote body, isQuote quote = true ∧ (∀ c ∈ body, isQuote c = false) ∧
        ∀ more, versionAfter? (after ++ more) = quotedText? (quote :: (body ++ more)) := by
  have comma : (Text.trimLeft after).head? = some ',' := by
    by_contra other
    rw [(versionAfter?_of_not_comma other).2] at opens
    cases opens
  obtain ⟨rest, shape⟩ := List.head?_eq_some_iff.mp comma
  rw [opensVersion_comma shape] at opens
  cases trimmed : Text.trimLeft rest with
  | nil =>
    left
    intro more
    rw [versionAfter?_comma_append shape, Text.trimLeft_append, if_pos trimmed]
  | cons quote body =>
    rw [trimmed] at opens
    have ⟨opening, unclosed⟩ := (Bool.and_eq_true _ _).mp opens
    refine .inr ⟨quote, body, opening, by simpa using unclosed, fun more => ?_⟩
    rw [versionAfter?_comma_append shape, Text.trimLeft_append, if_neg (by simp [trimmed]), trimmed]
    rfl

end Version

theorem ofGems_some (text : Text) : ofGems (some text) =
    ((gemNamed? text).map fun after => ⟨true, versionAfter? after⟩).getD ⟨false, none⟩ := by
  rw [← declaration?_eq]
  rfl

section LineFeed

theorem versionAfter?_lineFeed (after : Text) :
    versionAfter? (after ++ ['\n']) = versionAfter? after := by
  cases opens : opensVersion after with
  | false => exact versionAfter?_append opens (by decide)
  | true =>
    rcases versionAfter?_of_opens opens with gap | ⟨quote, body, opening, unclosed, quoted⟩
    · have ended := gap []
      rw [List.append_nil] at ended
      rw [gap, ended]
      rfl
    · have ended := quoted []
      rw [List.append_nil] at ended
      have noQuote : (Text.run ['\n'] (!isQuote ·)).2 = [] := by decide
      rw [quoted, ended, quotedText?_append opening unclosed, quotedText?_append opening unclosed,
        if_neg (fun closed => closed.2 noQuote), if_neg (fun closed => closed.2 rfl)]

theorem namedAt?_lineFeed (text : Text) :
    namedAt? (text ++ ['\n']) = (namedAt? text).map (· ++ ['\n']) := by
  cases named : namedAt? text with
  | some after => exact namedAt?_append_of_some named _
  | none =>
    rw [Option.map_none, Option.eq_none_iff_forall_ne_some]
    intro after found
    obtain ⟨word, quoted, begun, member, shape⟩ := namedAt?_eq_some_iff.mp found
    rcases List.eq_nil_or_concat' after with rfl | ⟨before, last, rfl⟩
    · have closed : ∀ quoted ∈ quotedGems, quoted ≠ [] ∧ quoted.getLast? ≠ some '\n' := by decide
      obtain ⟨nonempty, closing⟩ := closed quoted member
      apply closing
      rw [← List.getLast?_append_of_ne_nil word nonempty, ← List.append_nil quoted, ← shape,
        List.getLast?_concat]
    · have whole : text ++ ['\n'] = word ++ (quoted ++ before) ++ [last] := by
        simpa using shape
      obtain ⟨rfl, _⟩ := List.append_inj' whole rfl
      rw [namedAt?_eq_some_iff.mpr ⟨word, quoted, begun, member, rfl⟩] at named
      cases named

theorem gemNamed?_lineFeed (text : Text) :
    gemNamed? (text ++ ['\n']) = (gemNamed? text).map (· ++ ['\n']) := by
  induction text with
  | nil => rfl
  | cons c rest ih =>
    rw [List.cons_append, gemNamed?, ← List.cons_append, namedAt?_lineFeed, ih, gemNamed?]
    cases namedAt? (c :: rest) <;> rfl

theorem ofGems_lineFeed (text : Text) : ofGems (some (text ++ ['\n'])) = ofGems (some text) := by
  rw [ofGems_some, ofGems_some, gemNamed?_lineFeed, Option.map_map]
  congr 2
  funext after
  exact congrArg _ (versionAfter?_lineFeed after)

end LineFeed

end Framework

end RouteReport
