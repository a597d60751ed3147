import Mathlib.Data.Option.Basic
import RouteReport.Proofs.TextSearch
import RouteReport.Task.Version

/-! The version that a lock file resolves the framework to. The search runs over the whole text and may
take up white space of several lines, yet it tells what one entry says. -/

namespace RouteReport

/-- The gems that an application has the framework by. -/
def frameworkGems : List Text := ["rails".toList, "railties".toList]

/-- Digits, a dot and digits, and anything after them. -/
def IsRelease (version : Text) : Prop :=
  ∃ major minor more : Text, version = major ++ '.' :: (minor ++ more) ∧ major ≠ [] ∧ minor ≠ [] ∧
    (∀ c ∈ major, Text.isDigit c = true) ∧ ∀ c ∈ minor, Text.isDigit c = true

/-- An entry of a lock file. -/
inductive LockEntry where
  | gem (name : Text)
  /-- A gem with a source of its own. -/
  | pinned (name : Text)
  /-- The version that a gem is resolved to, or what another gem requires of it. -/
  | versioned (name version : Text)
  | setting (key value : Text)
  deriving DecidableEq, Repr

inductive LockLine where
  | blank (white : Text)
  | heading (text : Text)
  | entry (indent : Text) (content : LockEntry)
  deriving DecidableEq, Repr

/-- A word without white space. -/
@[mk_iff] structure IsGemName (name : Text) : Prop where
  nonempty : name ≠ []
  solid : ∀ c ∈ name, Text.isBlank c = false

instance (name : Text) : Decidable (IsGemName name) := decidable_of_iff' _ (isGemName_iff name)

/-- White space within a line. -/
@[mk_iff] structure IsIndent (white : Text) : Prop where
  blank : ∀ c ∈ white, Text.isBlank c = true
  sameLine : '\n' ∉ white

instance (white : Text) : Decidable (IsIndent white) := decidable_of_iff' _ (isIndent_iff white)

namespace LockEntry

def text : LockEntry → Text
  | gem name => name
  | pinned name => name ++ ['!']
  | versioned name version => name ++ (" (".toList ++ (version ++ [')']))
  | setting key value => key ++ (": ".toList ++ value)

def IsValid : LockEntry → Prop
  | gem name => IsGemName name
  | pinned name => IsGemName name
  | versioned name version => IsGemName name ∧ ')' ∉ version ∧ '\n' ∉ version
  | setting key value => IsGemName key ∧ '\n' ∉ value

instance (entry : LockEntry) : Decidable entry.IsValid :=
  match entry with
  | gem name => inferInstanceAs (Decidable (IsGemName name))
  | pinned name => inferInstanceAs (Decidable (IsGemName name))
  | versioned _ _ => inferInstanceAs (Decidable (_ ∧ _ ∧ _))
  | setting _ _ => inferInstanceAs (Decidable (_ ∧ _))

end LockEntry

namespace LockLine

def text : LockLine → Text
  | blank white => white
  | heading text => text
  | entry indent content => indent ++ content.text

/-- A heading stands at the margin, and is not itself an entry of the framework. -/
def IsValid : LockLine → Prop
  | blank white => IsIndent white
  | heading text => text.head?.any (!Text.isBlank ·) = true ∧ '\n' ∉ text ∧
      ∀ gem ∈ frameworkGems, ¬ gem ++ " (".toList <+: text
  | entry indent content => indent ≠ [] ∧ IsIndent indent ∧ content.IsValid

instance (line : LockLine) : Decidable line.IsValid :=
  match line with
  | blank white => inferInstanceAs (Decidable (IsIndent white))
  | heading _ => inferInstanceAs (Decidable (_ ∧ _ ∧ _))
  | entry _ _ => inferInstanceAs (Decidable (_ ∧ _ ∧ _))

/-- The line is an entry that gives a gem of the framework a release. -/
def Resolves (line : LockLine) (version : Text) : Prop :=
  ∃ indent, ∃ gem ∈ frameworkGems, line = entry indent (.versioned gem version) ∧ IsRelease version

end LockLine

/-- A lock file of the lines. -/
def lockText (lines : List LockLine) : Text := Text.join ['\n'] (lines.map (·.text))

namespace IsRelease

theorem of_digits {major more : Text} {d : Char} (some_major : major ≠ [])
    (digits : ∀ c ∈ major, Text.isDigit c = true) (digit : Text.isDigit d = true) :
    IsRelease (major ++ '.' :: d :: more) :=
  ⟨major, [d], more, rfl, some_major, List.cons_ne_nil d [], digits, by simpa⟩

theorem iff_run {version : Text} : IsRelease version ↔
    (Text.run version Text.isDigit).1 ≠ [] ∧ (Text.run version Text.isDigit).2.head? = some '.' ∧
      ((Text.run version Text.isDigit).2.drop 1).head?.any Text.isDigit = true := by
  constructor
  · rintro ⟨major, minor, more, rfl, some_major, some_minor, digits, others⟩
    have cut := Text.run_append Text.isDigit major ('.' :: (minor ++ more)) digits
      (by simp; decide)
    obtain ⟨d, rest, rfl⟩ := List.exists_cons_of_ne_nil some_minor
    rw [cut]
    exact ⟨some_major, rfl, others d List.mem_cons_self⟩
  · rintro ⟨some_major, dot, minor⟩
    obtain ⟨rest, shape⟩ := List.head?_eq_some_iff.mp dot
    rw [shape] at minor
    have whole := Text.run_eq_append version Text.isDigit
    rw [shape] at whole
    rw [whole]
    match rest, minor with
    | _ :: _, digit => exact of_digits some_major (fun _ => Text.mem_of_mem_run) digit

instance (version : Text) : Decidable (IsRelease version) := decidable_of_iff' _ iff_run

end IsRelease

namespace Framework

theorem lockedVersion?_parenthesised {major more : Text} {d : Char} (some_major : major ≠ [])
    (digits : ∀ c ∈ major, Text.isDigit c = true) (digit : Text.isDigit d = true)
    (unclosed : ')' ∉ d :: more) (rest : Text) :
    lockedVersion? (" (".toList ++ (major ++ '.' :: (d :: more ++ ')' :: rest))) =
      some (major ++ '.' :: d :: more) := by
  have opening :
      Text.afterPrefix? (" (".toList ++ (major ++ '.' :: (d :: more ++ ')' :: rest))) [' ', '('] =
        some (major ++ '.' :: (d :: more ++ ')' :: rest)) := Text.afterPrefix?_append [' ', '('] _
  have front := Text.run_append Text.isDigit major ('.' :: (d :: more ++ ')' :: rest)) digits
    (by simp; decide)
  have dot : Text.afterPrefix? ('.' :: (d :: more ++ ')' :: rest)) ['.'] =
      some (d :: more ++ ')' :: rest) := Text.afterPrefix?_append ['.'] _
  have back := Text.run_append (· != ')') (d :: more) (')' :: rest)
    (fun c present => bne_iff_ne.mpr fun same => unclosed (same ▸ present)) (by simp)
  rw [lockedVersion?, opening, Option.bind_eq_bind, Option.bind_some, front]
  dsimp only
  rw [dot, Option.bind_some, back]
  simp [digit, some_major, guard]

theorem lockedVersion?_eq_some_iff {text version : Text} : lockedVersion? text = some version ↔
    IsRelease version ∧ ')' ∉ version ∧ ∃ rest, text = " (".toList ++ (version ++ ')' :: rest) := by
  constructor
  · intro found
    simp only [lockedVersion?, Option.bind_eq_bind, Option.bind_eq_some_iff, Option.guard_eq_some',
      Text.afterPrefix?_eq_some_iff, Bool.and_eq_true, Bool.not_eq_true', List.isEmpty_eq_false_iff,
      Option.pure_def, Option.some.injEq] at found
    obtain ⟨inner, rfl, after, dot, _, ⟨some_major, digit⟩, _, closed, rfl⟩ := found
    have front := Text.run_eq_append inner Text.isDigit
    have back := Text.run_eq_append after (· != ')')
    have digits : ∀ c ∈ (Text.run inner Text.isDigit).1, Text.isDigit c = true :=
      fun _ => Text.mem_of_mem_run
    have unclosed : ')' ∉ (Text.run after (· != ')')).1 := fun present =>
      absurd (Text.mem_of_mem_run present) (by decide)
    obtain ⟨last, rest, shape⟩ := List.exists_cons_of_ne_nil closed
    have closes : last = ')' := by
      simpa using Text.head_run_rest (List.head?_eq_some_iff.mpr ⟨rest, shape⟩)
    rw [shape, closes] at back
    rw [dot] at front
    generalize (Text.run inner Text.isDigit).1 = major at front digits some_major ⊢
    generalize (Text.run after (· != ')')).1 = minor at back unclosed ⊢
    subst back front
    cases minor with
    | nil => exact absurd digit (by rw [List.nil_append, List.head?_cons]; decide)
    | cons d more =>
      refine ⟨.of_digits some_major digits digit, ?_, rest, by simp⟩
      have inMajor : ')' ∉ major := fun present => absurd (digits _ present) (by decide)
      simp only [List.mem_append, List.mem_cons, not_or] at unclosed ⊢
      exact ⟨inMajor, by decide, unclosed⟩
  · rintro ⟨⟨major, minor, more, rfl, some_major, some_minor, digits, others⟩, unclosed, rest, rfl⟩
    obtain ⟨d, tail, rfl⟩ := List.exists_cons_of_ne_nil some_minor
    have shape : major ++ '.' :: (d :: tail ++ more) ++ ')' :: rest =
        major ++ '.' :: (d :: (tail ++ more) ++ ')' :: rest) := List.append_assoc ..
    rw [shape]
    exact lockedVersion?_parenthesised some_major digits (others d List.mem_cons_self)
      (fun present => unclosed (List.mem_append_right _ (List.mem_cons_of_mem _ present))) rest

theorem lockedVersion?_of_not_mem {version : Text} (unclosed : ')' ∉ version) (rest : Text) :
    lockedVersion? (" (".toList ++ (version ++ ')' :: rest)) =
      if IsRelease version then some version else none := by
  ext other
  rw [lockedVersion?_eq_some_iff]
  constructor
  · rintro ⟨release, clean, tail, same⟩
    have ours := Text.cut?_of_not_mem ')' version rest unclosed
    rw [List.append_cancel_left same, Text.cut?_of_not_mem ')' other tail clean] at ours
    cases ours
    exact if_pos release
  · intro found
    split at found
    · next release =>
      cases found
      exact ⟨release, unclosed, rest, rfl⟩
    · cases found

theorem entryVersion?_eq_some_iff {text version : Text} : entryVersion? text = some version ↔
    ∃ gem ∈ frameworkGems, ∃ after, text = gem ++ after ∧ lockedVersion? after = some version := by
  constructor
  · intro found
    rcases (Option.orElse_eq_some _ _ _).mp found with first | ⟨-, second⟩
    · obtain ⟨after, starts, locked⟩ := Option.bind_eq_some_iff.mp first
      exact ⟨_, by decide, after, Text.afterPrefix?_eq_some_iff.mp starts, locked⟩
    · obtain ⟨after, starts, locked⟩ := Option.bind_eq_some_iff.mp second
      exact ⟨_, by decide, after, Text.afterPrefix?_eq_some_iff.mp starts, locked⟩
  · rintro ⟨gem, member, after, rfl, locked⟩
    have gems : gem = "rails".toList ∨ gem = "railties".toList := by simpa [frameworkGems] using member
    rcases gems with rfl | rfl
    · obtain ⟨_, _, rest, rfl⟩ := lockedVersion?_eq_some_iff.mp locked
      -- The space after the shorter name is not the letter that goes on with the longer one.
      have other : Text.afterPrefix? ("rails".toList ++ (" (".toList ++ (version ++ ')' :: rest)))
          "railties".toList = none := Text.afterPrefix?_eq_none (by simp)
      rw [entryVersion?, other, Text.afterPrefix?_append]
      exact locked
    · rw [entryVersion?, Text.afterPrefix?_append, Option.bind_eq_bind, Option.bind_some, locked]
      rfl

theorem entryVersion?_word {word after : Text} (solid : ∀ c ∈ word, Text.isBlank c = false)
    (apart : ∀ c, after.head? = some c → Text.isBlank c = true) :
    entryVersion? (word ++ after) = if word ∈ frameworkGems then lockedVersion? after else none := by
  have cut {first rest : Text} (plain : ∀ c ∈ first, Text.isBlank c = false)
      (gap : ∀ c, rest.head? = some c → Text.isBlank c = true) :
      Text.run (first ++ rest) (!Text.isBlank ·) = (first, rest) :=
    Text.run_append _ first rest (fun c present => by simp [plain c present])
      (fun c first => by simp [gap c first])
  ext version
  rw [entryVersion?_eq_some_iff]
  constructor
  · rintro ⟨gem, member, locked, same, found⟩
    obtain ⟨_, _, rest, rfl⟩ := lockedVersion?_eq_some_iff.mp found
    have gem_plain : ∀ gem ∈ frameworkGems, ∀ c ∈ gem, Text.isBlank c = false := by decide
    have inner : Text.run (gem ++ (" (".toList ++ (version ++ ')' :: rest))) (!Text.isBlank ·) =
        (gem, " (".toList ++ (version ++ ')' :: rest)) := cut (gem_plain gem member) (by simp)
    rw [← same, cut solid apart] at inner
    obtain ⟨rfl, rfl⟩ := Prod.mk.inj inner
    rw [if_pos member]
    exact found
  · intro found
    split at found
    · next member => exact ⟨word, member, after, rfl, found⟩
    · cases found

section Scan

variable (atLineStart isIndented : Bool) (rest : Text)

theorem lockVersionFrom?_lineFeed :
    lockVersionFrom? atLineStart isIndented ('\n' :: rest) =
      lockVersionFrom? true (isIndented || atLineStart) rest := rfl

theorem lockVersionFrom?_blank {c : Char} (blank : Text.isBlank c = true) (sameLine : c ≠ '\n') :
    lockVersionFrom? atLineStart isIndented (c :: rest) =
      lockVersionFrom? false (isIndented || atLineStart) rest := by
  rw [lockVersionFrom?, if_pos blank, beq_false_of_ne sameLine]

theorem lockVersionFrom?_indent {indent : Text} (blank : ∀ c ∈ indent, Text.isBlank c = true)
    (sameLine : '\n' ∉ indent) (nonempty : indent ≠ []) :
    lockVersionFrom? atLineStart isIndented (indent ++ rest) =
      lockVersionFrom? false (isIndented || atLineStart) rest := by
  induction indent generalizing atLineStart isIndented with
  | nil => exact absurd rfl nonempty
  | cons c others ih =>
    obtain ⟨first, later⟩ := List.forall_mem_cons.mp blank
    rw [List.mem_cons, not_or] at sameLine
    rw [List.cons_append, lockVersionFrom?_blank _ _ _ first (Ne.symm sameLine.1)]
    by_cases last : others = []
    · rw [last]
      rfl
    · rw [ih _ _ later sameLine.2 last, Bool.or_false]

theorem lockVersionFrom?_within {tail : Text} (sameLine : '\n' ∉ tail) :
    lockVersionFrom? false false (tail ++ rest) = lockVersionFrom? false false rest := by
  induction tail with
  | nil => rfl
  | cons c others ih =>
    rw [List.mem_cons, not_or] at sameLine
    rw [List.cons_append, lockVersionFrom?, beq_false_of_ne (Ne.symm sameLine.1), Bool.or_false,
      ih sameLine.2]
    split <;> rfl

theorem lockVersionFrom?_word {c : Char} (solid : Text.isBlank c = false) {tail : Text}
    (sameLine : '\n' ∉ tail) :
    lockVersionFrom? atLineStart isIndented (c :: (tail ++ rest)) =
      ((if isIndented then entryVersion? (c :: (tail ++ rest)) else none) <|>
        lockVersionFrom? false false rest) := by
  rw [lockVersionFrom?, solid, if_neg Bool.false_ne_true, lockVersionFrom?_within rest sameLine]

end Scan

end Framework

section LockFile

open Framework

namespace LockLine

def resolved? : LockLine → Option Text
  | entry _ (.versioned name version) =>
    if frameworkGems.contains name ∧ IsRelease version then some version else none
  | _ => none

theorem resolved?_eq_some_iff {line : LockLine} {version : Text} :
    line.resolved? = some version ↔ line.Resolves version := by
  constructor
  · intro found
    match line, found with
    | entry indent (.versioned name _), found =>
      rw [resolved?] at found
      split at found
      · next both =>
        cases found
        exact ⟨indent, name, List.contains_iff_mem.mp both.1, rfl, both.2⟩
      · cases found
  · rintro ⟨indent, gem, member, rfl, release⟩
    exact if_pos ⟨List.contains_iff_mem.mpr member, release⟩

theorem resolved?_eq_none_iff {line : LockLine} :
    line.resolved? = none ↔ ∀ version, ¬ line.Resolves version := by
  simp only [← resolved?_eq_some_iff, Option.eq_none_iff_forall_ne_some, ne_eq]

theorem entryVersion?_text {indent : Text} {content : LockEntry} (valid : content.IsValid) {tail : Text}
    (ended : ∀ c, tail.head? = some c → c = '\n') :
    entryVersion? (content.text ++ tail) = (entry indent content).resolved? := by
  have ended_blank : ∀ c, tail.head? = some c → Text.isBlank c = true := by
    intro c first
    rw [ended c first]
    rfl
  have unlocked : lockedVersion? tail = none := by
    rw [Option.eq_none_iff_forall_ne_some]
    intro version found
    obtain ⟨_, _, rest, rfl⟩ := lockedVersion?_eq_some_iff.mp found
    exact absurd (ended ' ' rfl) (by decide)
  have marked {name : Text} (solid : ∀ c ∈ name, Text.isBlank c = false) {mark : Char}
      (visible : Text.isBlank mark = false) : ∀ c ∈ name ++ [mark], Text.isBlank c = false := by
    intro c present
    rcases List.mem_append.mp present with inName | last
    · exact solid c inName
    · rwa [List.mem_singleton.mp last]
  cases content with
  | gem name =>
    rw [LockEntry.text, entryVersion?_word valid.solid ended_blank, unlocked, ite_self]
    rfl
  | pinned name =>
    rw [LockEntry.text, entryVersion?_word (marked valid.solid (by decide)) ended_blank, unlocked,
      ite_self]
    rfl
  | versioned name version =>
    obtain ⟨named, unclosed, _⟩ := valid
    have shape : LockEntry.text (.versioned name version) ++ tail =
        name ++ (" (".toList ++ (version ++ ')' :: tail)) := by
      simp [LockEntry.text]
    rw [shape, entryVersion?_word named.solid (by simp), lockedVersion?_of_not_mem unclosed, resolved?]
    split <;> split <;> simp_all
  | setting key value =>
    have shape : LockEntry.text (.setting key value) ++ tail =
        (key ++ [':']) ++ (' ' :: (value ++ tail)) := by
      simp [LockEntry.text]
    have noGem : key ++ [':'] ∉ frameworkGems := by
      intro member
      have colon : ∀ gem ∈ frameworkGems, ':' ∉ gem := by decide
      exact colon _ member (by simp)
    rw [shape, entryVersion?_word (marked valid.1.solid (by decide)) (by simp), if_neg noGem]
    rfl

theorem entryVersion?_heading {text tail : Text}
    (other : ∀ gem ∈ frameworkGems, ¬ gem ++ " (".toList <+: text)
    (ended : ∀ c, tail.head? = some c → c = '\n') : entryVersion? (text ++ tail) = none := by
  rw [Option.eq_none_iff_forall_ne_some]
  intro version found
  obtain ⟨gem, member, after, same, locked⟩ := entryVersion?_eq_some_iff.mp found
  obtain ⟨_, _, more, rfl⟩ := lockedVersion?_eq_some_iff.mp locked
  apply other gem member
  have starts : gem ++ " (".toList <+: text ++ tail :=
    ⟨version ++ ')' :: more, by rw [same, List.append_assoc]⟩
  cases tail with
  | nil => rwa [List.append_nil] at starts
  | cons c others =>
    rw [ended c rfl] at starts
    have oneLine : ∀ gem ∈ frameworkGems, '\n' ∉ gem ++ " (".toList := by decide
    exact Text.prefix_of_prefix_append_cons starts (oneLine gem member)

theorem sameLine_text {line : LockLine} (valid : line.IsValid) : '\n' ∉ line.text := by
  have inWord {name : Text} (named : IsGemName name) : '\n' ∉ name := fun present =>
    absurd (named.solid _ present) (by decide)
  match line, valid with
  | blank white, valid => exact valid.sameLine
  | heading text, valid => exact valid.2.1
  | entry indent (.gem name), ⟨_, indented, named⟩ =>
    simp [text, LockEntry.text, indented.sameLine, inWord named]
  | entry indent (.pinned name), ⟨_, indented, named⟩ =>
    simp [text, LockEntry.text, indented.sameLine, inWord named]
  | entry indent (.versioned name version), ⟨_, indented, named, _, sameLine⟩ =>
    simp [text, LockEntry.text, indented.sameLine, inWord named, sameLine]
  | entry indent (.setting key value), ⟨_, indented, named, sameLine⟩ =>
    simp [text, LockEntry.text, indented.sameLine, inWord named, sameLine]

theorem exists_cons_entry {content : LockEntry} (valid : content.IsValid) :
    ∃ c rest, content.text = c :: rest ∧ Text.isBlank c = false := by
  have begins {name : Text} (named : IsGemName name) (after : Text) :
      ∃ c rest, name ++ after = c :: rest ∧ Text.isBlank c = false := by
    obtain ⟨c, others, rfl⟩ := List.exists_cons_of_ne_nil named.nonempty
    exact ⟨c, others ++ after, rfl, named.solid c List.mem_cons_self⟩
  match content, valid with
  | .gem name, named => simpa [LockEntry.text] using begins named []
  | .pinned name, named => exact begins named _
  | .versioned name version, valid => exact begins valid.1 _
  | .setting key value, valid => exact begins valid.1 _

theorem lockVersionFrom?_text {line : LockLine} (valid : line.IsValid) (isIndented : Bool) {tail : Text}
    (ended : ∀ c, tail.head? = some c → c = '\n') :
    ∃ indented, lockVersionFrom? true isIndented (line.text ++ tail) =
      (line.resolved? <|> lockVersionFrom? false indented tail) := by
  have sameLine := sameLine_text valid
  match line, valid with
  | blank white, valid =>
    refine ⟨true, ?_⟩
    by_cases empty : white = []
    · rw [empty]
      match tail, ended with
      | [], _ => rfl
      | c :: rest, ended =>
        rw [ended c rfl, text, List.nil_append, lockVersionFrom?_lineFeed, lockVersionFrom?_lineFeed,
          Bool.or_true, Bool.true_or]
        rfl
    · rw [text, lockVersionFrom?_indent _ _ _ valid.blank valid.sameLine empty, Bool.or_true]
      rfl
  | heading (c :: rest), ⟨visible, sameLine, other⟩ =>
    refine ⟨false, ?_⟩
    have solid : Text.isBlank c = false := by simpa using visible
    have sameRest : '\n' ∉ rest := fun present => sameLine (List.mem_cons_of_mem c present)
    rw [text, List.cons_append, lockVersionFrom?_word _ _ _ solid sameRest, ← List.cons_append,
      entryVersion?_heading other ended, ite_self]
    rfl
  | entry indent content, ⟨nonempty, indented, valid⟩ =>
    refine ⟨false, ?_⟩
    obtain ⟨c, rest, shape, solid⟩ := exists_cons_entry valid
    have sameRest : '\n' ∉ rest := by
      rw [text, shape] at sameLine
      exact fun present => sameLine (by simp [present])
    rw [text, List.append_assoc, lockVersionFrom?_indent _ _ _ indented.blank indented.sameLine nonempty,
      Bool.or_true, ← entryVersion?_text valid ended, shape, List.cons_append,
      lockVersionFrom?_word _ _ _ solid sameRest, if_pos rfl]

end LockLine

theorem lockVersion?_lockText {lines : List LockLine} (valid : ∀ line ∈ lines, line.IsValid) :
    lockVersion? (lockText lines) = lines.findSome? LockLine.resolved? := by
  -- White space before a line may have begun with an earlier one, so the state is any at a line start.
  have scanned : ∀ isIndented, lockVersionFrom? true isIndented (lockText lines) =
      lines.findSome? LockLine.resolved? := by
    induction lines with
    | nil => exact fun _ => rfl
    | cons line rest ih =>
      obtain ⟨first, later⟩ := List.forall_mem_cons.mp valid
      intro isIndented
      have goesOn (tail : Text) (ended : ∀ c, tail.head? = some c → c = '\n')
          (next : ∀ indented, lockVersionFrom? false indented tail = rest.findSome? LockLine.resolved?) :
          lockVersionFrom? true isIndented (line.text ++ tail) =
            (line :: rest).findSome? LockLine.resolved? := by
        obtain ⟨indented, read⟩ := LockLine.lockVersionFrom?_text first isIndented ended
        rw [read, next, List.findSome?_cons]
        cases line.resolved? <;> rfl
      cases rest with
      | nil => simpa [lockText, Text.join] using goesOn [] (by simp) fun _ => rfl
      | cons next others =>
        have shape : lockText (line :: next :: others) =
            line.text ++ '\n' :: lockText (next :: others) := by
          simp [lockText, Text.join]
        rw [shape]
        apply goesOn _ (by simp)
        intro indented
        rw [lockVersionFrom?_lineFeed]
        exact ih later _
  exact scanned false

end LockFile

namespace Framework

def lockPath (root : Text) : Text := Path.join root "Gemfile.lock".toList

def gemsPath (root : Text) : Text := Path.join root "Gemfile".toList

/-- What the list of gems says, or that there is none. -/
def ofGems (gems : Option Text) : Framework := (gems >>= declaration?).getD ⟨false, none⟩

section Detect

variable {disk : FileTree} {root : Text} {lock : Option Text}
  (read : readText disk (lockPath root) = .ok lock)

include read

theorem detect_eq : detect disk root =
    match lock >>= lockVersion? with
    | some version => .ok ⟨true, some version⟩
    | none => (readText disk (gemsPath root)).map ofGems := by
  rw [lockPath] at read
  rw [detect, read]
  rfl

theorem detect_of_locked {version : Text} (locked : lock >>= lockVersion? = some version) :
    detect disk root = .ok ⟨true, some version⟩ := by
  rw [detect_eq read, locked]

theorem detect_of_unlocked (unlocked : lock >>= lockVersion? = none) :
    detect disk root = (readText disk (gemsPath root)).map ofGems := by
  rw [detect_eq read, unlocked]

end Detect

end Framework

/-- The version of an application is the release that the first line with one resolves the framework to.
Where no line does, the lock file might as well be missing. -/
theorem locked_version {lines : List LockLine} (valid : ∀ line ∈ lines, line.IsValid) {disk : FileTree}
    {root : Text}
    (read : Framework.readText disk (Framework.lockPath root) = .ok (some (lockText lines))) :
    (∀ before line after version, lines = before ++ line :: after → line.Resolves version →
      (∀ earlier ∈ before, ∀ other, ¬ earlier.Resolves other) →
        Framework.detect disk root = .ok ⟨true, some version⟩) ∧
    ((∀ line ∈ lines, ∀ version, ¬ line.Resolves version) → ∀ other : FileTree,
      Framework.readText other (Framework.lockPath root) = .ok none →
        Framework.readText other (Framework.gemsPath root) =
          Framework.readText disk (Framework.gemsPath root) →
        Framework.detect disk root = Framework.detect other root) := by
  constructor
  · intro before line after version shape resolves earliest
    apply Framework.detect_of_locked read
    rw [Option.bind_eq_bind, Option.bind_some, lockVersion?_lockText valid, List.findSome?_eq_some_iff]
    exact ⟨before, line, after, shape, LockLine.resolved?_eq_some_iff.mpr resolves,
      fun earlier member => LockLine.resolved?_eq_none_iff.mpr (earliest earlier member)⟩
  · intro silent other missing same
    have unlocked : Framework.lockVersion? (lockText lines) = none := by
      rw [lockVersion?_lockText valid, List.findSome?_eq_none_iff]
      exact fun line member => LockLine.resolved?_eq_none_iff.mpr (silent line member)
    rw [Framework.detect_of_unlocked read unlocked, Framework.detect_of_unlocked missing rfl, same]

def sampleLock : List LockLine :=
  [.heading "GEM".toList,
    .entry "  ".toList (.setting "remote".toList "https://rubygems.org/".toList),
    .entry "  ".toList (.gem "specs:".toList),
    .entry "    ".toList (.versioned "rails-html-sanitizer".toList "1.4.4".toList),
    .entry "    ".toList (.versioned "jquery-rails".toList "4.5.1".toList),
    .entry "      ".toList (.versioned "railties".toList ">= 4.2.0".toList)]

def sampleDisk (files : List (Text × Text)) : FileTree :=
  files.foldl (fun disk (name, content) =>
    disk.putFile (Path.join "/app".toList name) (Utf8.encode content)) .empty

theorem locked_version_of_sample :
    let resolved : LockLine := .entry "    ".toList (.versioned "rails".toList "7.0.4.3".toList)
    let locked := sampleDisk [("Gemfile.lock".toList, lockText (sampleLock ++ resolved :: sampleLock))]
    let gems := [("Gemfile".toList, "gem 'rails', '~> 5.2'".toList)]
    let unlocked := sampleDisk (("Gemfile.lock".toList, lockText sampleLock) :: gems)
    (∀ line ∈ sampleLock ++ resolved :: sampleLock, line.IsValid) ∧
      Framework.detect locked "/app".toList = .ok ⟨true, some "7.0.4.3".toList⟩ ∧
      Framework.detect unlocked "/app".toList = Framework.detect (sampleDisk gems) "/app".toList := by
  intro resolved locked gems unlocked
  have valid : ∀ line ∈ sampleLock ++ resolved :: sampleLock, line.IsValid := by decide
  have silent : ∀ line ∈ sampleLock, ∀ version, ¬ line.Resolves version := fun line member =>
    LockLine.resolved?_eq_none_iff.mp
      ((by decide : ∀ line ∈ sampleLock, line.resolved? = none) line member)
  have resolves : resolved.Resolves "7.0.4.3".toList := LockLine.resolved?_eq_some_iff.mp (by decide)
  refine ⟨valid, ?_, ?_⟩
  · exact (locked_version valid (by decide +kernel)).1 sampleLock resolved sampleLock _ rfl resolves
      silent
  · exact (locked_version (fun line member => valid line (List.mem_append_left _ member))
      (by decide +kernel)).2 silent (sampleDisk gems) (by decide +kernel) (by decide +kernel)

end RouteReport
