import RouteReport.Proofs.Task.GemDeclaration
import RouteReport.Task.Run

/-! Comments in a list of gems. The search for the framework does not know them: a comment that names the
framework declares it, and one that stands within a declaration cuts it off. Every other comment makes no
difference. -/

namespace RouteReport

namespace Framework

/-- The first character that is not white space begins a comment. -/
def isComment (line : Text) : Bool := (Text.trimLeft line).head? == some '#'

def withoutComments (text : Text) : Text :=
  Text.join ['\n'] ((text.splitOn '\n').filter (!isComment ·))

/-- Behind the front, a comment neither names the framework nor stands within its declaration. -/
def isIgnored (front comment : Text) : Bool :=
  match gemNamed? front with
  | some after => !opensVersion after
  | none => (gemNamed? comment).isNone && endsInGem front == endsInGem comment

/-- Every comment among the lines is ignored where it stands. -/
def eachIgnored (front : Text) : List Text → Bool
  | [] => true
  | line :: rest =>
    (!isComment line || isIgnored front (line ++ ['\n'])) &&
      eachIgnored (front ++ (line ++ ['\n'])) rest

section Comment

variable {front comment : Text} (frontEnd : ∀ c, front.getLast? = some c → Text.isBlank c = true)
  (commentEnd : ∀ c, comment.getLast? = some c → Text.isBlank c = true)
  (marked : isComment comment = true)

include marked

theorem comment_begins (back : Text) : ∃ rest, Text.trimLeft (comment ++ back) = '#' :: rest := by
  obtain ⟨rest, shape⟩ := List.head?_eq_some_iff.mp (beq_iff_eq.mp marked)
  refine ⟨rest ++ back, ?_⟩
  rw [Text.trimLeft_append, if_neg (by simp [shape]), shape]
  rfl

theorem comment_noComma (back : Text) : (Text.trimLeft (comment ++ back)).head? ≠ some ',' := by
  obtain ⟨rest, shape⟩ := comment_begins marked back
  simp [shape]

theorem comment_within_quotes : (Text.run (comment ++ ['\'']) (!isQuote ·)).1 ≠ [] ∧
    (Text.run (comment ++ ['\'']) (!isQuote ·)).2 ≠ [] := by
  constructor
  · cases comment with
    | nil => cases marked
    | cons c rest =>
      have noQuote : isQuote c = false := by
        rw [Bool.eq_false_iff]
        intro quote
        rcases isQuote_iff.mp quote with rfl | rfl <;> cases marked
      simp [Text.run, noQuote]
  · intro ended
    have quote := List.dropWhile_eq_nil_iff.mp ended '\'' (by simp)
    cases quote

theorem closed_of_versions {after : Text}
    (versions : ∀ back : Text, (Text.trimLeft back).head? ≠ some ',' →
      versionAfter? (after ++ (comment ++ back)) = versionAfter? (after ++ back)) :
    opensVersion after = false := by
  rw [Bool.eq_false_iff]
  intro opens
  rcases versionAfter?_of_opens opens with gap | ⟨quote, body, opening, unclosed, quoted⟩
  · have equal := versions "'0'".toList (by decide)
    obtain ⟨rest, shape⟩ := comment_begins marked "'0'".toList
    rw [gap, gap, shape, quotedText?_eq_none (by decide)] at equal
    exact absurd equal (by decide)
  · have equal := versions ['\''] (by decide)
    have longer := comment_within_quotes marked
    have ended : Text.run ['\''] (!isQuote ·) = ([], ['\'']) := by decide
    rw [quoted, quoted, quotedText?_append opening unclosed, quotedText?_append opening unclosed,
      ended, if_pos ⟨List.append_ne_nil_of_right_ne_nil _ longer.1, longer.2⟩] at equal
    split at equal
    · exact longer.1 (by simpa using equal)
    · cases equal

include frontEnd in
theorem gemNamed?_comment (unnamed : gemNamed? front = none) (back : Text) :
    gemNamed? (front ++ (comment ++ back)) = gemNamed? (comment ++ back) := by
  obtain ⟨rest, shape⟩ := comment_begins marked back
  rw [gemNamed?_append_of_none frontEnd _ unnamed, shape]
  split <;> rfl

include frontEnd commentEnd

theorem ofGems_of_named {after : Text} (unnamed : gemNamed? front = none)
    (named : gemNamed? comment = some after) (back : Text) :
    ofGems (some (front ++ (comment ++ back))) = ⟨true, versionAfter? (after ++ back)⟩ := by
  rw [ofGems_some, gemNamed?_comment frontEnd marked unnamed,
    gemNamed?_append_of_some commentEnd _ named]
  rfl

theorem ofGems_of_ignored (ignored : isIgnored front comment = true) {back : Text}
    (noComma : (Text.trimLeft back).head? ≠ some ',') :
    ofGems (some (front ++ (comment ++ back))) = ofGems (some (front ++ back)) := by
  rw [isIgnored] at ignored
  rw [ofGems_some, ofGems_some]
  cases named : gemNamed? front with
  | some after =>
    rw [named, Bool.not_eq_true'] at ignored
    rw [gemNamed?_append_of_some frontEnd _ named, gemNamed?_append_of_some frontEnd _ named,
      Option.map_some, Option.map_some, versionAfter?_append ignored (comment_noComma marked back),
      versionAfter?_append ignored noComma]
  | none =>
    rw [named, Bool.and_eq_true, Option.isNone_iff_eq_none, beq_iff_eq] at ignored
    rw [gemNamed?_comment frontEnd marked named, gemNamed?_append_of_none commentEnd _ ignored.1,
      gemNamed?_append_of_none frontEnd _ named, ignored.2]

theorem ignored_of_ofGems (same : ∀ back : Text, (Text.trimLeft back).head? ≠ some ',' →
    ofGems (some (front ++ (comment ++ back))) = ofGems (some (front ++ back))) :
    isIgnored front comment = true := by
  rw [isIgnored]
  cases named : gemNamed? front with
  | some after =>
    have versions (back : Text) (noComma : (Text.trimLeft back).head? ≠ some ',') :
        versionAfter? (after ++ (comment ++ back)) = versionAfter? (after ++ back) := by
      have equal := same back noComma
      rw [ofGems_some, ofGems_some, gemNamed?_append_of_some frontEnd _ named,
        gemNamed?_append_of_some frontEnd _ named] at equal
      exact congrArg Framework.version equal
    rw [Bool.not_eq_true']
    exact closed_of_versions marked versions
  | none =>
    have unnamed : gemNamed? comment = none := by
      cases found : gemNamed? comment with
      | none => rfl
      | some after =>
        have equal := same [] (by decide)
        rw [ofGems_of_named frontEnd commentEnd marked named found, List.append_nil front, ofGems_some,
          named] at equal
        cases equal
    have equal := same "'rails'".toList (by decide)
    rw [ofGems_some, ofGems_some, gemNamed?_comment frontEnd marked named,
      gemNamed?_append_of_none commentEnd _ unnamed, gemNamed?_append_of_none frontEnd _ named] at equal
    rw [unnamed]
    revert equal
    cases endsInGem front <;> cases endsInGem comment <;> decide

end Comment

section Lines

theorem isBlank_of_lineEnd {line : Text} {c : Char} (last : (line ++ ['\n']).getLast? = some c) :
    Text.isBlank c = true := by
  rw [List.getLast?_concat] at last
  rw [← Option.some.inj last]
  rfl

theorem isBlank_of_linesEnd {lines : List Text} {c : Char}
    (last : (lines.flatMap (· ++ ['\n'])).getLast? = some c) : Text.isBlank c = true := by
  by_cases empty : lines = []
  · subst empty
    cases last
  · rw [Text.flatMap_lineFeed empty] at last
    exact isBlank_of_lineEnd last

theorem isComment_line {line : Text} (marked : isComment line = true) :
    isComment (line ++ ['\n']) = true := by
  obtain ⟨rest, shape⟩ := comment_begins marked ['\n']
  rw [isComment, shape]
  rfl

theorem noComma_of_lines {lines : List Text}
    (noComma : ∀ line ∈ lines, (Text.trimLeft line).head? ≠ some ',') :
    (Text.trimLeft (lines.flatMap (· ++ ['\n']))).head? ≠ some ',' := by
  induction lines with
  | nil => decide
  | cons line rest ih =>
    obtain ⟨first, later⟩ := List.forall_mem_cons.mp noComma
    rw [List.flatMap_cons, List.append_assoc, Text.trimLeft_append]
    split
    · exact ih later
    · next nonempty => rwa [List.head?_append_of_ne_nil _ nonempty]

theorem ofGems_flatMap (lines : List Text) :
    ofGems (some (lines.flatMap (· ++ ['\n']))) = ofGems (some (Text.join ['\n'] lines)) := by
  by_cases empty : lines = []
  · rw [empty]
    rfl
  · rw [Text.flatMap_lineFeed empty, ofGems_lineFeed]

theorem ofGems_filter {lines : List Text}
    (noComma : ∀ line ∈ lines, (Text.trimLeft line).head? ≠ some ',')
    {front : Text} (frontEnd : ∀ c, front.getLast? = some c → Text.isBlank c = true)
    (ignored : eachIgnored front lines = true) :
    ofGems (some (front ++ lines.flatMap (· ++ ['\n']))) =
      ofGems (some (front ++ (lines.filter (!isComment ·)).flatMap (· ++ ['\n']))) := by
  induction lines generalizing front with
  | nil => rfl
  | cons line rest ih =>
    obtain ⟨_, later⟩ := List.forall_mem_cons.mp noComma
    rw [eachIgnored, Bool.and_eq_true] at ignored
    have others : ofGems (some (front ++ (line :: rest).flatMap (· ++ ['\n']))) =
        ofGems (some (front ++
          (line ++ ['\n'] ++ (rest.filter (!isComment ·)).flatMap (· ++ ['\n'])))) := by
      rw [List.flatMap_cons, ← List.append_assoc, ih later _ ignored.2, List.append_assoc]
      intro c last
      rw [← List.append_assoc] at last
      exact isBlank_of_lineEnd last
    rw [others]
    cases marked : isComment line with
    | false => rw [List.filter_cons_of_pos (by rw [marked]; rfl), List.flatMap_cons]
    | true =>
      rw [marked] at ignored
      rw [List.filter_cons_of_neg (by rw [marked]; decide)]
      apply ofGems_of_ignored frontEnd (fun _ => isBlank_of_lineEnd) (isComment_line marked) ignored.1
      exact noComma_of_lines fun line member => later line (List.mem_of_mem_filter member)

theorem ofGems_withoutComments {gems : Text}
    (noComma : ∀ line ∈ gems.splitOn '\n', (Text.trimLeft line).head? ≠ some ',')
    (ignored : eachIgnored [] (gems.splitOn '\n') = true) :
    ofGems (some gems) = ofGems (some (withoutComments gems)) := by
  have nothing : ∀ c, ([] : Text).getLast? = some c → Text.isBlank c = true := by simp
  have whole := ofGems_filter noComma nothing ignored
  rwa [List.nil_append, List.nil_append, ofGems_flatMap, ofGems_flatMap,
    Text.join_splitOn_self] at whole

end Lines

end Framework

open Framework

/-- The application has this list of gems and no lock file. -/
structure GemsAlone (disk : FileTree) (root gems : Text) : Prop where
  unlocked : readText disk (lockPath root) = .ok none
  listed : readText disk (gemsPath root) = .ok (some gems)

theorem GemsAlone.detect {disk : FileTree} {root gems : Text} (alone : GemsAlone disk root gems) :
    Framework.detect disk root = .ok (ofGems (some gems)) := by
  rw [detect_of_unlocked alone.unlocked rfl, alone.listed]
  rfl

theorem RoutesTask.commandLine_congr {task : RoutesTask} {disk other : FileTree}
    (same : Framework.detect disk task.root = Framework.detect other task.root) :
    task.commandLine disk = task.commandLine other := by
  rw [commandLine, commandLine, same]

/-- If every comment of a list of gems is ignored in its place, the list says the same without them, and
the same command is run. A comment is ignored just when it makes no difference whatever comes after it,
as long as that does not begin with a comma, which would go on with a declaration before. And a comment
that names the framework declares it, unless a line before does. -/
theorem comments_ignored_iff {disk other : FileTree} {root gems : Text}
    (alone : GemsAlone disk root gems) (without : GemsAlone other root (withoutComments gems)) :
    ((∀ line ∈ gems.splitOn '\n', (Text.trimLeft line).head? ≠ some ',') →
      eachIgnored [] (gems.splitOn '\n') = true →
        Framework.detect disk root = Framework.detect other root ∧
          ∀ task : RoutesTask, task.root = root → task.commandLine disk = task.commandLine other) ∧
    ∀ (before after : List Text) (comment : Text), gems.splitOn '\n' = before ++ comment :: after →
      isComment comment = true →
        let front := before.flatMap (· ++ ['\n'])
        ((∀ back : Text, (Text.trimLeft back).head? ≠ some ',' →
            ofGems (some (front ++ (comment ++ ['\n'] ++ back))) = ofGems (some (front ++ back))) ↔
          isIgnored front (comment ++ ['\n']) = true) ∧
        ∀ rest, gemNamed? front = none → gemNamed? (comment ++ ['\n']) = some rest →
          Framework.detect disk root =
            .ok ⟨true, versionAfter? (rest ++ after.flatMap (· ++ ['\n']))⟩ := by
  constructor
  · intro noComma ignored
    have same : Framework.detect disk root = Framework.detect other root := by
      rw [alone.detect, without.detect, ofGems_withoutComments noComma ignored]
    refine ⟨same, ?_⟩
    rintro task rfl
    exact RoutesTask.commandLine_congr same
  · intro before after comment lines marked front
    have frontEnd : ∀ c, front.getLast? = some c → Text.isBlank c = true :=
      fun _ => isBlank_of_linesEnd
    have commentEnd : ∀ c, (comment ++ ['\n']).getLast? = some c → Text.isBlank c = true :=
      fun _ => isBlank_of_lineEnd
    have marked := isComment_line marked
    refine ⟨⟨ignored_of_ofGems frontEnd commentEnd marked,
      fun ignored _ => ofGems_of_ignored frontEnd commentEnd marked ignored⟩, ?_⟩
    intro rest unnamed named
    have whole := ofGems_flatMap (gems.splitOn '\n')
    rw [Text.join_splitOn_self, lines, List.flatMap_append, List.flatMap_cons] at whole
    rw [alone.detect, ← whole, ofGems_of_named frontEnd commentEnd marked unnamed named]

def commentedGems : Text :=
  "source 'https://rubygems.org'\n# The framework\ngem 'rails', '~> 5.2'\n  # gem 'puma'\n".toList

def edgeGems : Text :=
  "# Bundle edge Rails instead: gem 'rails', github: 'rails/rails'\ngem 'rails', '~> 5.2'\n".toList

def gemsDisk (gems : Text) : FileTree := sampleDisk [("Gemfile".toList, gems)]

theorem gemsAlone_commented : GemsAlone (gemsDisk commentedGems) "/app".toList commentedGems ∧
    GemsAlone (gemsDisk (withoutComments commentedGems)) "/app".toList (withoutComments commentedGems) :=
  ⟨⟨by decide, by decide +kernel⟩, ⟨by decide, by decide +kernel⟩⟩

theorem gemsAlone_edge : GemsAlone (gemsDisk edgeGems) "/app".toList edgeGems ∧
    GemsAlone (gemsDisk (withoutComments edgeGems)) "/app".toList (withoutComments edgeGems) :=
  ⟨⟨by decide, by decide +kernel⟩, ⟨by decide, by decide +kernel⟩⟩

theorem comments_ignored_of_samples :
    Framework.detect (gemsDisk commentedGems) "/app".toList =
        Framework.detect (gemsDisk (withoutComments commentedGems)) "/app".toList ∧
      Framework.detect (gemsDisk edgeGems) "/app".toList = .ok ⟨true, none⟩ := by
  constructor
  · obtain ⟨whole, _⟩ := comments_ignored_iff gemsAlone_commented.1 gemsAlone_commented.2
    exact (whole (by decide) (by decide)).1
  · obtain ⟨_, byLine⟩ := comments_ignored_iff gemsAlone_edge.1 gemsAlone_edge.2
    have declared := (byLine [] ["gem 'rails', '~> 5.2'".toList, []]
      "# Bundle edge Rails instead: gem 'rails', github: 'rails/rails'".toList (by decide)
      (by decide)).2 ", github: 'rails/rails'\n".toList rfl (by decide)
    exact declared.trans (by decide)

theorem comment_decides_version :
    ¬ ∀ (disk other : FileTree) (root gems : Text), GemsAlone disk root gems →
      GemsAlone other root (withoutComments gems) →
        Framework.detect disk root = Framework.detect other root := by
  intro always
  have same := always _ _ _ _ gemsAlone_edge.1 gemsAlone_edge.2
  exact absurd same (by decide +kernel)

end RouteReport
