import RouteReport.Proofs.Report.Locality
import RouteReport.Proofs.Report.TargetReading
import RouteReport.Proofs.Report.UnambiguousLines

namespace RouteReport

def IsSpacing (gap : Text) : Prop := ∀ c ∈ gap, Text.isBlank c = true ∧ c ≠ '\n'

instance (gap : Text) : Decidable (IsSpacing gap) :=
  inferInstanceAs (Decidable (∀ c ∈ gap, Text.isBlank c = true ∧ c ≠ '\n'))

structure IsQuotable (value : Text) : Prop where
  nonempty : value ≠ []
  plain : ∀ c ∈ value, Endpoint.isQuote c = false ∧ c ≠ ':' ∧ c ≠ '#' ∧ c ≠ '\n'

/-- A value with what surrounds it, and white space wherever it may stand. -/
structure KeyedValue where
  before : Text
  beforeArrow : Text
  afterArrow : Text
  quote : Char
  value : Text
  after : Text
  before_spacing : IsSpacing before
  beforeArrow_spacing : IsSpacing beforeArrow
  afterArrow_spacing : IsSpacing afterArrow
  quote_quotes : Endpoint.isQuote quote = true
  value_quotable : IsQuotable value
  after_spacing : IsSpacing after

inductive HashKey where
  | controller
  | action
  deriving DecidableEq, Repr

def HashKey.word : HashKey → Text
  | .controller => "controller".toList
  | .action => "action".toList

def HashKey.text (key : HashKey) : Text := ':' :: key.word

theorem HashKey.text_ne_nil (key : HashKey) : key.text ≠ [] := List.cons_ne_nil _ _

namespace KeyedValue

/-- What follows the key. -/
def tail (keyed : KeyedValue) : Text :=
  keyed.beforeArrow ++ ('=' :: '>' :: (keyed.afterArrow ++
    (keyed.quote :: (keyed.value ++ keyed.quote :: keyed.after))))

def text (keyed : KeyedValue) (key : HashKey) : Text := keyed.before ++ (key.text ++ keyed.tail)

end KeyedValue

/-- A pair of a hash. The others hold neither key, and may be any text without hashes on one line. -/
inductive HashPair where
  | keyed (key : HashKey) (value : KeyedValue)
  | other (written : Text) (free : ∀ key : HashKey, ¬ key.text <:+: written) (noHash : '#' ∉ written)
    (oneLine : '\n' ∉ written)

namespace HashPair

def text : HashPair → Text
  | .keyed key value => value.text key
  | .other written .. => written

def valueFor? (key : HashKey) : HashPair → Option KeyedValue
  | .keyed given value => if given = key then some value else none
  | .other .. => none

end HashPair

/-- Pairs with one value for each of the keys. -/
structure HashTarget where
  pairs : List HashPair
  controller : KeyedValue
  action : KeyedValue
  controllers : pairs.filterMap (·.valueFor? .controller) = [controller]
  actions : pairs.filterMap (·.valueFor? .action) = [action]

def HashTarget.text (target : HashTarget) : Text :=
  '\x7b' :: (Text.join [','] (target.pairs.map HashPair.text) ++ ['\x7d'])

theorem IsSpacing.blank {gap : Text} (spacing : IsSpacing gap) : ∀ c ∈ gap, Text.isBlank c = true :=
  fun c present => (spacing c present).1

theorem IsSpacing.not_mem {gap : Text} (spacing : IsSpacing gap) {mark : Char}
    (marks : Text.isBlank mark = false ∨ mark = '\n') : mark ∉ gap := by
  intro present
  rcases spacing mark present with ⟨blank, noFeed⟩
  rcases marks with visible | feed
  · rw [visible] at blank
    cases blank
  · exact noFeed feed

theorem isBlank_of_isQuote {c : Char} (quotes : Endpoint.isQuote c = true) : Text.isBlank c = false := by
  simp only [Endpoint.isQuote, Bool.or_eq_true, beq_iff_eq] at quotes
  rcases quotes with rfl | rfl <;> rfl

namespace Endpoint

theorem valueOf?_skip {key front : Text} {c : Char} (nonempty : key ≠ []) (absent : c ∉ key)
    (free : ¬ key <:+: front) (rest : Text) : valueOf? key (front ++ c :: rest) = valueOf? key rest := by
  induction front with
  | nil =>
    have notHere : ¬ key <+: c :: rest := by
      intro starts
      have empty := Text.prefix_of_prefix_append_cons (List.nil_append (c :: rest) ▸ starts) absent
      exact nonempty (List.prefix_nil.mp empty)
    simp [valueOf?, Text.afterPrefix?_eq_none notHere]
  | cons d others ih =>
    rw [List.infix_cons_iff, not_or] at free
    have notHere : ¬ key <+: d :: (others ++ c :: rest) := fun starts =>
      free.1 (Text.prefix_of_prefix_append_cons starts absent)
    simp [valueOf?, Text.afterPrefix?_eq_none notHere, ih free.2]

theorem valueOf?_append_of_blank {gap word : Text} {c : Char} (blank : ∀ c ∈ gap, Text.isBlank c = true)
    (visible : Text.isBlank c = false) (rest : Text) :
    valueOf? (c :: word) (gap ++ rest) = valueOf? (c :: word) rest := by
  induction gap with
  | nil => rfl
  | cons d others ih =>
    rcases List.forall_mem_cons.mp blank with ⟨first, later⟩
    have notHere : ¬ c :: word <+: d :: (others ++ rest) := by
      intro starts
      rw [(List.cons_prefix_cons.mp starts).1, first] at visible
      cases visible
    simp [valueOf?, Text.afterPrefix?_eq_none notHere, ih later]

end Endpoint

namespace KeyedValue

variable (keyed : KeyedValue)

theorem valueAfterKey?_tail (rest : Text) :
    Endpoint.valueAfterKey? (keyed.tail ++ rest) = some keyed.value := by
  rcases List.exists_cons_of_ne_nil keyed.value_quotable.nonempty with ⟨first, body, shape⟩
  have plain := keyed.value_quotable.plain
  rw [shape, List.forall_mem_cons] at plain
  have visible := isBlank_of_isQuote keyed.quote_quotes
  have arrow : Text.trimLeft (keyed.tail ++ rest) = ['=', '>'] ++ (keyed.afterArrow ++
      (keyed.quote :: first :: (body ++ keyed.quote :: (keyed.after ++ rest)))) := by
    rw [tail, List.append_assoc, Text.trimLeft_append_of_blank keyed.beforeArrow_spacing.blank]
    simp [Text.trimLeft, shape]
    decide
  have quoted : Text.trimLeft (keyed.afterArrow ++
      (keyed.quote :: first :: (body ++ keyed.quote :: (keyed.after ++ rest)))) =
        keyed.quote :: first :: (body ++ keyed.quote :: (keyed.after ++ rest)) := by
    rw [Text.trimLeft_append_of_blank keyed.afterArrow_spacing.blank]
    exact Text.trimLeft_of_head fun c head => Option.some.inj head ▸ visible
  have run := Text.run_append (fun c => !Endpoint.isQuote c && c != '\n') body
    (keyed.quote :: (keyed.after ++ rest)) (fun c present => by simp [plain.2 c present])
    (fun c head => by simp [← Option.some.inj head, keyed.quote_quotes])
  rw [Endpoint.valueAfterKey?, arrow, Text.afterPrefix?_append, Option.bind_eq_bind, Option.bind_some]
  simp [quoted, run, keyed.quote_quotes, plain.1, shape]

theorem valueOf?_text (key : HashKey) (rest : Text) :
    Endpoint.valueOf? key.text (keyed.text key ++ rest) = some keyed.value := by
  have here : Text.afterPrefix? (key.text ++ (keyed.tail ++ rest)) key.text = some (keyed.tail ++ rest) :=
    Text.afterPrefix?_append key.text _
  rw [HashKey.text, List.cons_append] at here
  calc
    Endpoint.valueOf? key.text (keyed.text key ++ rest)
        = Endpoint.valueOf? key.text (keyed.before ++ (key.text ++ (keyed.tail ++ rest))) := by
          simp only [text, List.append_assoc]
    _ = Endpoint.valueOf? key.text (key.text ++ (keyed.tail ++ rest)) :=
          Endpoint.valueOf?_append_of_blank keyed.before_spacing.blank rfl _
    _ = some keyed.value := by
          rw [HashKey.text, List.cons_append, Endpoint.valueOf?, here, Option.bind_eq_bind,
            Option.bind_some, keyed.valueAfterKey?_tail]
          rfl

theorem not_mem_tail {mark : Char} (marks : mark = ':' ∨ mark = '#' ∨ mark = '\n') : mark ∉ keyed.tail := by
  have ends : Text.isBlank mark = false ∨ mark = '\n' := by
    rcases marks with rfl | rfl | rfl <;> decide
  have noQuote : mark ≠ keyed.quote := by
    have quotes := keyed.quote_quotes
    rintro rfl
    rcases marks with colon | hash | feed
    · rw [colon] at quotes; cases quotes
    · rw [hash] at quotes; cases quotes
    · rw [feed] at quotes; cases quotes
  have noArrow : mark ≠ '=' ∧ mark ≠ '>' := by
    rcases marks with rfl | rfl | rfl <;> decide
  have noValue : mark ∉ keyed.value := by
    intro present
    have plain := keyed.value_quotable.plain mark present
    rcases marks with rfl | rfl | rfl <;> simp at plain
  simp [tail, keyed.beforeArrow_spacing.not_mem ends, keyed.afterArrow_spacing.not_mem ends,
    keyed.after_spacing.not_mem ends, noQuote, noArrow, noValue]

theorem not_mem_text (key : HashKey) {mark : Char} (marks : mark = '#' ∨ mark = '\n') :
    mark ∉ keyed.text key := by
  have ends : Text.isBlank mark = false ∨ mark = '\n' := by
    rcases marks with rfl | rfl <;> decide
  have noKey : mark ∉ key.text := by
    rcases marks with rfl | rfl <;> cases key <;> decide
  simp [text, keyed.before_spacing.not_mem ends, noKey, keyed.not_mem_tail (.inr marks)]

theorem free_text {key other : HashKey} (different : other ≠ key) : ¬ other.text <:+: keyed.text key := by
  have colon : ':' ∉ keyed.before := keyed.before_spacing.not_mem (.inl rfl)
  have noColon : ':' ∉ key.word ++ keyed.tail := by
    have inWord : ':' ∉ key.word := by cases key <;> decide
    simp [inWord, keyed.not_mem_tail (.inl rfl)]
  rw [text, HashKey.text, HashKey.text, List.cons_append, Text.cons_infix_iff colon noColon]
  rintro ⟨rest, starts⟩
  cases key <;> cases other
  · exact different rfl
  · exact absurd (List.cons.inj starts).1 (by decide)
  · exact absurd (List.cons.inj starts).1 (by decide)
  · exact different rfl

end KeyedValue

namespace HashPair

theorem free_of_valueFor? {key : HashKey} {pair : HashPair} (absent : pair.valueFor? key = none) :
    ¬ key.text <:+: pair.text := by
  cases pair with
  | keyed given value =>
    have different : key ≠ given := by
      rintro rfl
      simp [valueFor?] at absent
    exact value.free_text different
  | other written free => exact free key

theorem not_mem_text (pair : HashPair) {mark : Char} (marks : mark = '#' ∨ mark = '\n') :
    mark ∉ pair.text := by
  cases pair with
  | keyed key value => exact value.not_mem_text key marks
  | other written free noHash oneLine =>
    rcases marks with rfl | rfl
    · exact noHash
    · exact oneLine

theorem valueOf?_join {key : HashKey} {pairs : List HashPair} {value : KeyedValue}
    (first : (pairs.filterMap (·.valueFor? key)).head? = some value) (rest : Text) :
    Endpoint.valueOf? key.text (Text.join [','] (pairs.map text) ++ rest) = some value.value := by
  induction pairs with
  | nil => cases first
  | cons pair others ih =>
    cases found : pair.valueFor? key with
    | some given =>
      have same : given = value := by simpa [found] using first
      have shape : pair = .keyed key given := by
        cases pair with
        | keyed other written => simp_all [valueFor?]
        | other => cases found
      rw [shape, List.map_cons, ← same]
      cases others with
      | nil => exact given.valueOf?_text key rest
      | cons next later =>
        rw [List.map_cons, Text.join, List.append_assoc, List.append_assoc]
        exact given.valueOf?_text key _
    | none =>
      rw [List.filterMap_cons_none found] at first
      have noComma : ',' ∉ key.text := by cases key <;> decide
      cases others with
      | nil => cases first
      | cons next later =>
        rw [List.map_cons, List.map_cons, Text.join, List.append_assoc, List.append_assoc,
          List.singleton_append,
          Endpoint.valueOf?_skip key.text_ne_nil noComma (free_of_valueFor? found)]
        exact ih first

end HashPair

namespace HashTarget

variable (target : HashTarget)

theorem not_mem_text {mark : Char} (marks : mark = '#' ∨ mark = '\n') : mark ∉ target.text := by
  have noBrace : mark ≠ '\x7b' ∧ mark ≠ '\x7d' := by
    rcases marks with rfl | rfl <;> decide
  have inPairs : mark ∉ Text.join [','] (target.pairs.map HashPair.text) := by
    intro present
    rcases Text.mem_join present with comma | ⟨written, member, inPair⟩
    · rw [List.mem_singleton] at comma
      rcases marks with rfl | rfl <;> cases comma
    · rcases List.mem_map.mp member with ⟨pair, _, rfl⟩
      exact pair.not_mem_text marks inPair
  simp [text, noBrace, inPairs]

theorem valueOf?_text {key : HashKey} {value : KeyedValue}
    (single : target.pairs.filterMap (·.valueFor? key) = [value]) :
    Endpoint.valueOf? key.text target.text = some value.value := by
  have noBrace : '\x7b' ∉ key.text := by cases key <;> decide
  have noKey : ¬ key.text <:+: [] := by simp [key.text_ne_nil]
  calc
    Endpoint.valueOf? key.text target.text
        = Endpoint.valueOf? key.text (Text.join [','] (target.pairs.map HashPair.text) ++ ['\x7d']) :=
          Endpoint.valueOf?_skip key.text_ne_nil noBrace noKey _
    _ = some value.value := HashPair.valueOf?_join (by rw [single]; rfl) _

theorem trim_text (after : Text) (blank : ∀ c ∈ after, Text.isBlank c = true) :
    (target.text ++ after).trim = target.text := by
  have ends : target.text = ('\x7b' :: Text.join [','] (target.pairs.map HashPair.text)) ++ ['\x7d'] := rfl
  have trimmed : target.text.trim = target.text := by
    apply Text.trim_of_ends
    · intro c first
      rw [← Option.some.inj first]
      rfl
    · intro c last
      rw [ends, List.getLast?_concat] at last
      rw [← Option.some.inj last]
      rfl
  exact Text.trim_of_padded (List.cons_ne_nil _ _) trimmed (List.forall_mem_nil _) blank

theorem noRedirect : isRedirectTarget target.text = false := by
  rw [Bool.eq_false_iff, ne_eq, isRedirectTarget_of_head]
  · intro starts
    cases (List.cons_prefix_cons.mp starts).1
  · intro c first
    rw [← Option.some.inj first]
    rfl

theorem ofTarget_text :
    Endpoint.ofTarget target.text = ⟨target.controller.value, target.action.value⟩ := by
  have controller : Endpoint.valueOf? ":controller".toList target.text = some target.controller.value :=
    target.valueOf?_text target.controllers
  have action : Endpoint.valueOf? ":action".toList target.text = some target.action.value :=
    target.valueOf?_text target.actions
  have noHash : '#' ∉ target.text := target.not_mem_text (.inl rfl)
  rw [Endpoint.ofTarget, target.noRedirect, Text.cut?_singleton_eq_none_iff.mpr noHash, controller, action]
  rfl

/-- One route for each verb of the line. -/
def routes (application : Option Text) (parts : Columns.Parts) : Routes :=
  (parts.verbs.splitOn '|').map fun verb =>
    ⟨application, Verb.ofToken verb, parts.path, target.controller.value, target.action.value,
      parts.name, .normal⟩

theorem isValid_of_mem_routes {application : Option Text} {parts : Columns.Parts} {route : Route}
    (member : route ∈ target.routes application parts) : route.isValid = true := by
  rcases List.mem_map.mp member with ⟨verb, _, rfl⟩
  simp [Route.isValid, parts.path_nonempty, target.controller.value_quotable.nonempty,
    target.action.value_quotable.nonempty]

section Line

variable {line after : Text} {parts : Columns.Parts} (whole : Text.withoutLineEnd line = parts.line)
  (oneLine : '\n' ∉ line) (slash : parts.path.head? = some '/') (written : parts.rest = target.text ++ after)
  (blank : ∀ c ∈ after, Text.isBlank c = true)

include written blank

theorem candidates_eq (application : Option Text) :
    LineReading.candidates application parts.columns = target.routes application parts := by
  have trimmed : parts.rest.trim = target.text := by rw [written, target.trim_text after blank]
  have normal : RouteType.classify target.controller.value target.action.value target.text = .normal := by
    simp [RouteType.classify, target.noRedirect, target.action.value_quotable.nonempty]
  simp only [LineReading.candidates, Columns.Parts.columns, trimmed, target.ofTarget_text, normal]
  rfl

include whole oneLine slash

theorem routes?_readingOf (application : Option Text) :
    (Reader.readingOf application line).routes? = some (target.routes application parts) := by
  have apart := Columns.Ending.standsApart_of_slash slash
  have parts_oneLine : '\n' ∉ parts.line := fun feed =>
    oneLine (Text.mem_of_mem_dropRightWhile (whole ▸ feed))
  rw [Reader.readingOf, whole, LineReading.routes?_of_standsApart apart application parts_oneLine,
    target.candidates_eq written blank,
    List.filter_eq_self.mpr fun _ member => target.isValid_of_mem_routes member]

theorem engine?_readingOf (application : Option Text) : (Reader.readingOf application line).engine? = none := by
  rw [Option.eq_none_iff_forall_ne_some]
  intro engine told
  rcases LineReading.engine?_eq_some_iff.mp told with ⟨route, single, mounted, _⟩
  rw [target.routes?_readingOf whole oneLine slash written blank, Option.some.injEq] at single
  have member : route ∈ target.routes application parts := single ▸ List.mem_singleton_self route
  rcases List.mem_map.mp member with ⟨verb, _, rfl⟩
  cases mounted

end Line

end HashTarget

/-- The controller and the action of a hash are those of its pairs, whatever stands before, between and
after them. A line with the hash after a path that begins with a slash has a normal route for each of
its verbs, with this controller and this action, and tells of no engine. -/
theorem hash_target_read (target : HashTarget) :
    Endpoint.ofTarget target.text = ⟨target.controller.value, target.action.value⟩ ∧
      ∀ (reader : Reader) (errors : Option Text) (line after : Text) (parts : Columns.Parts),
        '\n' ∉ line → Text.withoutLineEnd line = parts.line → parts.path.head? = some '/' →
        parts.rest = target.text ++ after → (∀ c ∈ after, Text.isBlank c = true) →
        (reader.read line errors).2 = target.routes reader.application parts ∧
          (reader.read line errors).1.engines = [] := by
  refine ⟨target.ofTarget_text, ?_⟩
  intro reader errors line after parts oneLine whole slash written blank
  have nonempty : line ≠ [] := by
    rintro rfl
    have empty := congrArg List.length whole
    have some_path := List.length_pos_iff.mpr parts.path_nonempty
    simp [Columns.Parts.line, Columns.Remainder.text, Columns.Ending.text, Text.withoutLineEnd,
      Text.dropRightWhile] at empty
    omega
  rcases reader.read_eq line errors with ⟨routes, engines⟩
  rw [Text.lines_singleton line oneLine nonempty, List.flatMap_singleton] at routes engines
  rw [Reader.routesAt, target.routes?_readingOf whole oneLine slash written blank] at routes
  rw [Reader.engineAt, target.engine?_readingOf whole oneLine slash written blank] at engines
  exact ⟨routes, engines⟩

def tightAction : KeyedValue :=
  ⟨[], [], [], '\'', "index".toList, " ".toList, by decide, by decide, by decide, by decide,
    ⟨by decide, by decide⟩, by decide⟩

def looseController : KeyedValue :=
  ⟨"\t ".toList, "  ".toList, " ".toList, '"', "admin/users".toList, [], by decide, by decide, by decide,
    by decide, ⟨by decide, by decide⟩, by decide⟩

def crowdedHash : HashTarget where
  pairs := [.other ":control => 1".toList (by intro key; cases key <;> decide) (by decide) (by decide),
    .keyed .action tightAction,
    .other " :id => /[0-9]\x7b1,3\x7d/".toList (by intro key; cases key <;> decide) (by decide) (by decide),
    .keyed .controller looseController]
  controller := looseController
  action := tightAction
  controllers := rfl
  actions := rfl

def crowdedLine : Text :=
  "users GET|POST /users \x7b:control => 1,:action=>'index' , :id => /[0-9]\x7b1,3\x7d/,".toList ++
    "\t :controller  => \"admin/users\"\x7d \r".toList

def crowdedParts : Columns.Parts where
  indent := []
  name := "users".toList
  afterName := " ".toList
  verbs := "GET|POST".toList
  afterVerbs := " ".toList
  path := "/users".toList
  afterPath := " ".toList
  rest := crowdedHash.text ++ " ".toList
  path_nonempty := by decide
  path_solid := by decide
  path_apart := ⟨by decide, by decide⟩
  rest_nonempty := by decide
  afterName_blank := by decide
  verbs_chars := by decide
  verbs_apart := ⟨by decide, by decide⟩
  indent_blank := by decide
  name_chars := by decide

theorem hash_target_of_crowdedLine :
    '\n' ∉ crowdedLine ∧ Text.withoutLineEnd crowdedLine = crowdedParts.line ∧
      ((Reader.new none).read crowdedLine none).2 =
        [⟨none, .get, "/users".toList, "admin/users".toList, "index".toList, "users".toList, .normal⟩,
          ⟨none, .post, "/users".toList, "admin/users".toList, "index".toList, "users".toList, .normal⟩] := by
  have oneLine : '\n' ∉ crowdedLine := by decide
  have whole : Text.withoutLineEnd crowdedLine = crowdedParts.line := by decide
  have expanded : crowdedHash.routes none crowdedParts =
      [⟨none, .get, "/users".toList, "admin/users".toList, "index".toList, "users".toList, .normal⟩,
        ⟨none, .post, "/users".toList, "admin/users".toList, "index".toList, "users".toList, .normal⟩] := by
    decide
  rcases (hash_target_read crowdedHash).2 (Reader.new none) none crowdedLine " ".toList crowdedParts
    oneLine whole rfl rfl (by decide) with ⟨routes, _⟩
  exact ⟨oneLine, whole, routes.trans expanded⟩

end RouteReport
