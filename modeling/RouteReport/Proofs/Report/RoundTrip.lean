import RouteReport.Proofs.Report.TargetReading
import RouteReport.Proofs.Report.UnambiguousLines

namespace RouteReport

namespace Verb

theorem name_chars (verb : Verb) : ∀ c ∈ verb.name, Columns.isVerbChar c = true ∧ c ≠ '|' := by
  have each : verb.name.all (fun c => Columns.isVerbChar c && c != '|') = true := by
    cases verb <;> decide
  simpa using each

theorem ofToken_name (verb : Verb) : ofToken verb.name = verb := by
  cases verb <;> decide

end Verb

namespace Entry

theorem verbColumn_chars (entry : Entry) : ∀ c ∈ entry.verbColumn, Columns.isVerbChar c = true := by
  intro c present
  rcases Text.mem_join present with bar | ⟨word, member, inWord⟩
  · rw [List.mem_singleton.mp bar]
    rfl
  · rcases List.mem_map.mp member with ⟨verb, _, rfl⟩
    exact (verb.name_chars c inWord).1

theorem verbColumn_eq_nil (entry : Entry) : entry.verbColumn = [] ↔ entry.verbs = [] := by
  constructor
  · intro empty
    cases shape : entry.verbs with
    | nil => rfl
    | cons verb rest =>
      rw [verbColumn, shape] at empty
      cases rest <;> cases verb <;> cases empty
  · intro absent
    simp [verbColumn, absent, Text.join]

theorem splitOn_verbColumn (entry : Entry) :
    (entry.verbColumn.splitOn '|').map Verb.ofToken =
      if entry.verbs = [] then [.any] else entry.verbs := by
  by_cases absent : entry.verbs = []
  · rw [if_pos absent, (verbColumn_eq_nil entry).mpr absent]
    rfl
  · have words : ∀ word ∈ entry.verbs.map Verb.name, '|' ∉ word := by
      intro word member
      rcases List.mem_map.mp member with ⟨verb, _, rfl⟩
      exact fun present => (verb.name_chars '|' present).2 rfl
    rw [if_neg absent, verbColumn, Text.splitOn_join '|' _ (by simpa using absent) words, List.map_map]
    simp [Function.comp_def, Verb.ofToken_name]

theorem path_start_name (entry : Entry) {c : Char} (first : entry.path.head? = some c) :
    Columns.isNameChar c = false ∧ Columns.isVerbChar c = false := by
  have start := entry.path_start c first
  simp only [Text.isAsciiLetter, Bool.or_eq_false_iff] at start
  simp [Columns.isNameChar, Columns.isVerbChar, start]

end Entry

theorem Columns.isGap_spaces {n : Nat} (some_space : 0 < n) : Columns.IsGap (Text.spaces n) where
  nonempty := by simpa [Text.spaces] using some_space.ne'
  blank := fun _ present => Text.isBlank_of_mem_spaces present

namespace Row

/-- What the line shows of the target once the end of the line is gone. -/
def written (row : Row) : Text := Text.withoutLineEnd row.entry.target.text

def fromVerbs (row : Row) : Text :=
  row.entry.verbColumn ++ (Text.spaces row.afterVerbs ++ (row.entry.path ++
    (Text.spaces row.afterPath ++ row.written)))

theorem lead_append_written (row : Row) :
    row.lead ++ row.written = Text.spaces row.indent ++ (row.entry.name ++
      (Text.spaces row.afterName ++ row.fromVerbs)) := by
  simp only [lead, fromVerbs, List.append_assoc]

theorem withoutLineEnd_line (row : Row) :
    Text.withoutLineEnd row.line = row.lead ++ row.written := by
  apply Text.dropRightWhile_append
  apply Text.dropRightWhile_of_getLast
  intro c last
  rcases Nat.exists_eq_succ_of_ne_zero row.path_apart.ne' with ⟨n, spaces⟩
  have ends : row.lead.getLast? = some ' ' := by
    simp [lead, spaces, Text.spaces, List.replicate_succ', ← List.append_assoc]
  rw [← Option.some.inj (ends.symm.trans last)]
  rfl

theorem written_nonempty (row : Row) : row.written ≠ [] := by
  rcases Target.text_head row.entry.target_valid with ⟨c, head, visible⟩
  apply Text.dropRightWhile_ne_nil (List.mem_of_head? head)
  rw [Bool.eq_false_iff]
  intro lineEnd
  have ends : c = '\r' ∨ c = '\n' := by simpa using lineEnd
  rcases ends with rfl | rfl <;> cases visible

theorem written_oneLine (row : Row) : '\n' ∉ row.written :=
  fun present => Target.text_oneLine row.entry.target_valid (Text.mem_of_mem_dropRightWhile present)

def ending (row : Row) : Columns.Ending where
  path := row.entry.path
  afterPath := Text.spaces row.afterPath
  rest := row.written
  path_nonempty := row.entry.path_nonempty
  path_solid := row.entry.path_solid
  path_apart := Columns.isGap_spaces row.path_apart
  rest_nonempty := row.written_nonempty

def partsWith (row : Row) (indent afterName afterVerbs : Nat) (apart : 0 < afterVerbs) : Columns.Parts where
  toEnding := row.ending
  indent := Text.spaces indent
  name := row.entry.name
  afterName := Text.spaces afterName
  verbs := row.entry.verbColumn
  afterVerbs := Text.spaces afterVerbs
  indent_blank := fun _ present => Text.isBlank_of_mem_spaces present
  name_chars := row.entry.name_chars
  afterName_blank := fun _ present => Text.isBlank_of_mem_spaces present
  verbs_chars := row.entry.verbColumn_chars
  verbs_apart := Columns.isGap_spaces apart

theorem exists_parts (row : Row) : ∃ indent afterName afterVerbs, ∃ apart : 0 < afterVerbs,
    (row.partsWith indent afterName afterVerbs apart).line = row.lead ++ row.written := by
  rw [lead_append_written]
  by_cases noVerbs : row.entry.verbs = []
  · have empty := row.entry.verbColumn_eq_nil.mpr noVerbs
    have none_left : Text.spaces 0 = [] := rfl
    by_cases unnamed : row.entry.name = []
    · refine ⟨0, 0, row.indent + row.afterName + row.afterVerbs, row.path_indented unnamed noVerbs, ?_⟩
      simp [partsWith, Columns.Parts.line, Columns.Remainder.text, Columns.Ending.text, ending, fromVerbs,
        Text.spaces_add, empty, unnamed, none_left]
    · refine ⟨row.indent, 0, row.afterName + row.afterVerbs, row.name_path_apart unnamed noVerbs, ?_⟩
      simp [partsWith, Columns.Parts.line, Columns.Remainder.text, Columns.Ending.text, ending, fromVerbs,
        Text.spaces_add, empty, none_left]
  · exact ⟨row.indent, row.afterName, row.afterVerbs, row.verbs_apart noVerbs, rfl⟩

theorem ending_standsApart (row : Row) : row.ending.StandsApart :=
  fun _ first => row.entry.path_start_name first

theorem lead_oneLine (row : Row) : '\n' ∉ row.lead := by
  have inName : '\n' ∉ row.entry.name := fun present => by
    cases row.entry.name_chars '\n' present
  have inVerbs : '\n' ∉ row.entry.verbColumn := fun present => by
    cases row.entry.verbColumn_chars '\n' present
  have inPath : '\n' ∉ row.entry.path := fun present => by
    cases row.entry.path_solid '\n' present
  simp [lead, Text.spaces, inName, inVerbs, inPath]

theorem ofLine?_row (row : Row) :
    Columns.ofLine? (row.lead ++ row.written) =
      some ⟨row.entry.name, row.entry.verbColumn, row.entry.path, row.written.trim⟩ := by
  have oneLine : '\n' ∉ row.lead ++ row.written := by
    simp [row.lead_oneLine, row.written_oneLine]
  rcases row.exists_parts with ⟨indent, afterName, afterVerbs, apart, line⟩
  rw [← line] at oneLine ⊢
  exact Columns.Parts.ofLine?_of_standsApart row.ending_standsApart oneLine

theorem ofAnnouncement?_row (row : Row) :
    LineReading.ofAnnouncement? (row.lead ++ row.written) = none := by
  rcases row.exists_parts with ⟨indent, afterName, afterVerbs, apart, line⟩
  rw [← line]
  exact LineReading.ofAnnouncement?_of_standsApart row.ending_standsApart

theorem written_trim (row : Row) : row.written.trim = Text.trimRight row.entry.target.text := by
  rcases Target.text_head row.entry.target_valid with ⟨d, head, visible⟩
  apply Text.trim_withoutLineEnd
  intro c first
  exact Option.some.inj (head.symm.trans first) ▸ visible

theorem candidates_row (row : Row) (application : Option Text) :
    LineReading.candidates application
        ⟨row.entry.name, row.entry.verbColumn, row.entry.path, row.written.trim⟩ =
      row.entry.routes application := by
  rcases Target.read_trimRight_text row.entry.target_valid with ⟨answer, type⟩
  rw [← row.written_trim] at answer type
  simp only [LineReading.candidates, answer, type, Entry.routes, ← row.entry.splitOn_verbColumn,
    List.map_map]
  rfl

theorem routes_valid (entry : Entry) (application : Option Text) :
    ∀ route ∈ entry.routes application, route.isValid = true := by
  intro route member
  rcases List.mem_map.mp member with ⟨verb, _, rfl⟩
  have path : entry.path.isEmpty = false := by simpa using entry.path_nonempty
  have valid := entry.target_valid
  cases shape : entry.target with
  | handler controller action clause =>
    rw [shape] at valid
    have controllerThere : controller.isEmpty = false := by simpa using valid.1.nonempty
    have actionThere : action.isEmpty = false := by simpa using valid.2.2.2.1.nonempty
    simp [Route.isValid, path, Target.type, Target.endpoint, controllerThere, actionThere]
  | mount constant => simp [Route.isValid, path, Target.type]
  | redirect destination => simp [Route.isValid, path, Target.type]

theorem ofLine_row (row : Row) (application : Option Text) :
    LineReading.ofLine application (Text.withoutLineEnd row.line) =
      .routes (row.lead ++ row.written) (row.entry.routes application) 0 := by
  have kept : (row.entry.routes application).filter (·.isValid) = row.entry.routes application :=
    List.filter_eq_self.mpr (routes_valid row.entry application)
  rw [withoutLineEnd_line, LineReading.ofLine, ofAnnouncement?_row, Option.getD_none,
    LineReading.ofData, ofLine?_row]
  simp only [candidates_row, kept, Nat.sub_self]

theorem line_oneLine (row : Row) : '\n' ∉ row.line := by
  rw [line, List.mem_append, not_or]
  exact ⟨row.lead_oneLine, Target.text_oneLine row.entry.target_valid⟩

theorem line_nonempty (row : Row) : row.line ≠ [] := by
  rcases Target.text_head row.entry.target_valid with ⟨c, head, _⟩
  rw [line, ne_eq, List.append_eq_nil_iff]
  rintro ⟨_, empty⟩
  rw [empty] at head
  cases head

end Row

theorem engine?_entry (entry : Entry) (line : Text) (application : Option Text) :
    (LineReading.routes line (entry.routes application) 0).engine? = entry.engine? := by
  cases verbs : entry.verbs with
  | nil =>
    cases target : entry.target <;>
      simp [LineReading.engine?, LineReading.routes?, Entry.routes, Entry.engine?, verbs, target,
        Target.type, Target.endpoint, Route.endpoint]
  | cons verb others =>
    cases others with
    | nil =>
      cases target : entry.target <;>
        simp [LineReading.engine?, LineReading.routes?, Entry.routes, Entry.engine?, verbs, target,
          Target.type, Target.endpoint, Route.endpoint]
    | cons next rest =>
      cases target : entry.target <;>
        simp [LineReading.engine?, LineReading.routes?, Entry.routes, Entry.engine?, verbs, target]

theorem lines_render (rows : List Row) (ended : Bool) :
    Text.lines (render rows ended) = rows.map Row.line := by
  fun_induction render rows ended with
  | case1 => rfl
  | case2 row => exact Text.lines_singleton row.line row.line_oneLine row.line_nonempty
  | case3 row ended rows _ ih => rw [Text.lines_cons row.line _ row.line_oneLine, ih, List.map_cons]

theorem readingsOf_render (application : Option Text) (rows : List Row) (ended : Bool) :
    Reader.readingsOf application (Text.lines (render rows ended)) =
      rows.map fun row => .routes (row.lead ++ row.written) (row.entry.routes application) 0 := by
  rw [lines_render, Reader.readingsOf, List.map_map]
  apply List.map_congr_left
  intro row _
  exact row.ofLine_row application

/-- Reading the rendering of any rows gives back their entries: each line the routes of its entry,
and the report all of them, with the engines among them. -/
theorem read_render (reader : Reader) (errors : Option Text) (rows : List Row) (ended : Bool) :
    (Reader.readingsOf reader.application (Text.lines (render rows ended))).map (·.routes?) =
        rows.map (fun row => some (row.entry.routes reader.application)) ∧
      (reader.read (render rows ended) errors).2 =
        rows.flatMap (fun row => row.entry.routes reader.application) ∧
      (reader.read (render rows ended) errors).1.engines =
        rows.filterMap (fun row => row.entry.engine?) := by
  refine ⟨?_, ?_, ?_⟩
  · simp [readingsOf_render, LineReading.routes?]
  · simp only [Reader.read, readingsOf_render, List.flatMap_map, LineReading.routes?,
      Option.getD_some]
    rfl
  · simp only [Reader.read, Reader.readLines, Reader.readErrors, readingsOf_render,
      List.filterMap_map]
    apply List.filterMap_congr
    intro row _
    exact engine?_entry row.entry _ reader.application

end RouteReport
