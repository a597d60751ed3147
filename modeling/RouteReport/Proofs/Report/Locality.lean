import RouteReport.Proofs.Naming.Marks
import RouteReport.Proofs.TextLaws
import RouteReport.Report.Reader

/-! A report is read line by line. No line has a say in what another one gives, so a report can be read
in parts, and the lines that give nothing can be left out. -/

namespace RouteReport

namespace Text

theorem splitOn_eq_lines (text : Text) :
    text.splitOn '\n' = lines text ∨ text.splitOn '\n' = lines text ++ [[]] := by
  rw [lines_eq]
  split
  · rename_i last
    right
    exact (List.dropLast_append_getLast? [] last).symm
  · exact .inl rfl

theorem lines_append (front back : Text) :
    lines (front ++ '\n' :: back) = front.splitOn '\n' ++ lines back := by
  have pieces : (front ++ '\n' :: back : Text).splitOn '\n' =
      front.splitOn '\n' ++ back.splitOn '\n' := by
    simp only [splitOn_eq]
    exact List.splitOn_append_cons_self front back
  have some_piece := splitOn_ne_nil back '\n'
  rw [lines_eq, lines_eq, pieces, List.getLast?_append_of_ne_nil _ some_piece,
    List.dropLast_append_of_ne_nil some_piece]
  split <;> rfl

theorem lines_subset_splitOn (text : Text) : lines text ⊆ text.splitOn '\n' := by
  rcases splitOn_eq_lines text with pieces | pieces
  · exact pieces ▸ List.Subset.refl _
  · exact pieces ▸ List.subset_append_left _ _

theorem flatMap_lines_append {α : Type} {give : Text → List α} (silent : give [] = [])
    (front back : Text) :
    (lines (front ++ '\n' :: back)).flatMap give =
      (lines front).flatMap give ++ (lines back).flatMap give := by
  have same : (front.splitOn '\n').flatMap give = (lines front).flatMap give := by
    rcases splitOn_eq_lines front with pieces | pieces
    · rw [pieces]
    · rw [pieces, List.flatMap_append, List.flatMap_singleton, silent, List.append_nil]
  rw [lines_append, List.flatMap_append, same]

theorem lines_flatMap {pieces : List Text} (clean : ∀ line ∈ pieces, '\n' ∉ line) :
    lines (pieces.flatMap (· ++ ['\n'])) = pieces := by
  induction pieces with
  | nil => rfl
  | cons line rest ih =>
    obtain ⟨first, others⟩ := List.forall_mem_cons.mp clean
    rw [List.flatMap_cons, List.append_assoc, List.singleton_append, lines_cons line _ first, ih others]

theorem exists_lines_eq (text : Text) {kept : List Text} (among : kept ⊆ lines text) :
    ∃ rest, lines rest = kept := by
  refine ⟨kept.flatMap (· ++ ['\n']), lines_flatMap ?_⟩
  intro line member
  exact not_mem_of_mem_splitOn (lines_subset_splitOn text (among member))

end Text

namespace LineReading

/-- The readings that give no route: announcements, lines without columns, and lines whose routes are
all invalid. -/
inductive IsBarren : LineReading → Prop where
  | tableHeader : IsBarren .tableHeader
  | engineHeader (engine : Text) : IsBarren (.engineHeader engine)
  | unrecognized (line : Text) : IsBarren (.unrecognized line)
  | invalid (line : Text) (dropped : Nat) : IsBarren (.routes line [] dropped)

theorem isBarren_iff {reading : LineReading} : reading.IsBarren ↔ reading.routes?.getD [] = [] := by
  constructor
  · intro barren
    cases barren <;> rfl
  · intro nothing
    cases reading with
    | tableHeader => exact .tableHeader
    | engineHeader engine => exact .engineHeader engine
    | unrecognized line => exact .unrecognized line
    | routes line kept dropped =>
      have empty : kept = [] := nothing
      exact empty ▸ .invalid line dropped

theorem IsBarren.no_engine {reading : LineReading} (barren : reading.IsBarren) :
    reading.engine? = none := by
  cases barren <;> rfl

theorem engine?_eq_some_iff {reading : LineReading} {engine : Engine} :
    reading.engine? = some engine ↔ ∃ route, reading.routes? = some [route] ∧ route.type = .mounted ∧
      ⟨route.endpoint, route.path⟩ = engine := by
  unfold engine?
  split
  · rename_i single
    simp [single]
  · rename_i several
    simp only [reduceCtorEq, false_iff, not_exists, not_and]
    exact fun route single => absurd single (several route)

end LineReading

namespace Reader

def readingOf (application : Option Text) (line : Text) : LineReading :=
  .ofLine application (Text.withoutLineEnd line)

/-- The routes that a line gives. -/
def routesAt (application : Option Text) (line : Text) : Routes :=
  (readingOf application line).routes?.getD []

def engineAt (application : Option Text) (line : Text) : Option Engine :=
  (readingOf application line).engine?

theorem read_eq (reader : Reader) (output : Text) (errors : Option Text) :
    (reader.read output errors).2 = (Text.lines output).flatMap (routesAt reader.application) ∧
      (reader.read output errors).1.engines =
        (Text.lines output).flatMap fun line => (engineAt reader.application line).toList := by
  constructor
  · exact List.flatMap_map ..
  · rw [← List.filterMap_eq_flatMap_toList]
    exact List.filterMap_map ..

theorem routesAt_of_barren {application : Option Text} {line : Text}
    (barren : (readingOf application line).IsBarren) : routesAt application line = [] :=
  LineReading.isBarren_iff.mp barren

theorem engineAt_of_barren {application : Option Text} {line : Text}
    (barren : (readingOf application line).IsBarren) : engineAt application line = none :=
  barren.no_engine

theorem empty_line_barren (application : Option Text) : (readingOf application []).IsBarren :=
  .unrecognized []

variable {whole first second : Reader}

/-- Two texts one after the other, with a line feed between them, give what each of them gives, and a
line that gives no route can be taken out wherever it stands. Only the application of a reader matters
for this, not what was read before. -/
theorem read_linewise (sameFirst : first.application = whole.application)
    (sameSecond : second.application = whole.application)
    (errors firstErrors secondErrors : Option Text) :
    (∀ a b : Text,
        (whole.read (a ++ '\n' :: b) errors).2 =
            (first.read a firstErrors).2 ++ (second.read b secondErrors).2 ∧
          (whole.read (a ++ '\n' :: b) errors).1.engines =
            (first.read a firstErrors).1.engines ++ (second.read b secondErrors).1.engines) ∧
      ∀ (text : Text) (before : List Text) (line : Text) (after : List Text),
        Text.lines text = before ++ line :: after →
        (readingOf whole.application line).IsBarren →
        (∃ rest, Text.lines rest = before ++ after) ∧
          ∀ rest, Text.lines rest = before ++ after →
            (first.read rest firstErrors).2 = (whole.read text errors).2 ∧
              (first.read rest firstErrors).1.engines = (whole.read text errors).1.engines := by
  have silent := empty_line_barren whole.application
  constructor
  · intro a b
    simp only [read_eq, sameFirst, sameSecond]
    constructor
    · exact Text.flatMap_lines_append (routesAt_of_barren silent) a b
    · exact Text.flatMap_lines_append (by rw [engineAt_of_barren silent]; rfl) a b
  · intro text before line after shape barren
    constructor
    · apply Text.exists_lines_eq text
      rw [shape]
      exact List.append_subset.mpr
        ⟨List.subset_append_left _ _,
          List.Subset.trans (List.subset_cons_self _ _) (List.subset_append_right _ _)⟩
    · intro rest remaining
      simp only [read_eq, sameFirst, shape, remaining, List.flatMap_append, List.flatMap_cons,
        routesAt_of_barren barren, engineAt_of_barren barren, Option.toList_none, List.nil_append,
        and_self]

def usersLine : Text := "users GET /users(.:format) users#index".toList

def engineHeading : Text := "Routes for Blog::Engine:".toList

def mountLine : Text := "blog /blog Blog::Engine\r".toList

theorem read_linewise_around_heading :
    (∃ rest, Text.lines rest = [usersLine] ++ [mountLine]) ∧
      ∀ rest, Text.lines rest = [usersLine] ++ [mountLine] →
        ((new none).read rest none).1.engines = [⟨"Blog::Engine".toList, "/blog".toList⟩] ∧
          ((new none).read rest none).2 =
            ((new none).read usersLine none).2 ++ ((new none).read mountLine none).2 := by
  have shape : Text.lines (usersLine ++ '\n' :: (engineHeading ++ '\n' :: mountLine)) =
      [usersLine] ++ engineHeading :: [mountLine] := by
    decide
  have barren : (readingOf none engineHeading).IsBarren :=
    LineReading.isBarren_iff.mpr (by decide)
  have engines : ((new none).read (usersLine ++ '\n' :: (engineHeading ++ '\n' :: mountLine))
      none).1.engines = [⟨"Blog::Engine".toList, "/blog".toList⟩] := by
    decide
  have headed : ((new none).read (engineHeading ++ '\n' :: mountLine) none).2 =
      ((new none).read mountLine none).2 := by
    decide
  have fresh : (new none).application = (new none).application := rfl
  obtain ⟨parts, without⟩ := read_linewise fresh fresh none none none
  obtain ⟨remains, same⟩ := without _ _ _ _ shape barren
  refine ⟨remains, ?_⟩
  intro rest remaining
  obtain ⟨sameRoutes, sameEngines⟩ := same rest remaining
  constructor
  · rw [sameEngines, engines]
  · rw [sameRoutes, (parts usersLine _).1, headed]

end Reader

end RouteReport
