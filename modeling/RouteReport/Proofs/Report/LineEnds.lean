import RouteReport.Proofs.OctetRoundTrip
import RouteReport.Proofs.Report.FailedStream

namespace RouteReport

namespace Text

inductive LineEnd where
  | lineFeed
  | carriageReturn
  | both
  deriving DecidableEq, Repr

def LineEnd.text : LineEnd → Text
  | .lineFeed => ['\n']
  | .carriageReturn => ['\r']
  | .both => ['\r', '\n']

structure EndedLine where
  content : Text
  lineEnd : LineEnd
  no_feed : '\n' ∉ content
  no_return : '\r' ∉ content

/-- The lines one after the other; the last one may go without its end. -/
def joined : List EndedLine → Bool → Text
  | [], _ => []
  | [line], false => line.content
  | line :: rest, ended => line.content ++ (line.lineEnd.text ++ joined rest ended)

def EndedLine.withFeed (line : EndedLine) : EndedLine := { line with lineEnd := .lineFeed }

theorem joined_withFeed (lines : List EndedLine) :
    joined (lines.map EndedLine.withFeed) false = join ['\n'] (lines.map (·.content)) := by
  induction lines with
  | nil => rfl
  | cons line rest ih =>
    cases rest with
    | nil => rfl
    | cons next others =>
      simp only [List.map_cons] at ih ⊢
      rw [joined, ih, join]
      · simp [EndedLine.withFeed, LineEnd.text]
      · simp

theorem withoutLineEnd_append_return (line : Text) :
    withoutLineEnd (line ++ ['\r']) = withoutLineEnd line := by
  simp [withoutLineEnd, dropRightWhile]

theorem unifyLineEnds_append {front : Text} (no_return : '\r' ∉ front) (rest : Text) :
    unifyLineEnds (front ++ rest) = front ++ unifyLineEnds rest := by
  induction front with
  | nil => rfl
  | cons c others ih =>
    have parts : '\r' ≠ c ∧ '\r' ∉ others := by simpa using no_return
    rw [List.cons_append, unifyLineEnds, ih parts.2, List.cons_append]
    · simp [parts.1.symm]
    · simp [parts.1.symm]

theorem unifyLineEnds_feed (rest : Text) : unifyLineEnds ('\n' :: rest) = '\n' :: unifyLineEnds rest := by
  rw [unifyLineEnds] <;> simp

theorem unifyLineEnds_both (rest : Text) :
    unifyLineEnds ('\r' :: '\n' :: rest) = '\n' :: unifyLineEnds rest := by
  rw [unifyLineEnds]

theorem unifyLineEnds_return {rest : Text} (apart : rest.head? ≠ some '\n') :
    unifyLineEnds ('\r' :: rest) = '\n' :: unifyLineEnds rest := by
  rw [unifyLineEnds]
  rintro others rfl
  exact apart rfl

structure IgnoresEnds {α : Type} (give : Text → List α) : Prop where
  silent : give [] = []
  no_return : ∀ line, give (line ++ ['\r']) = give line

section Gathering

variable {α : Type} {give : Text → List α} (ignores : IgnoresEnds give)

theorem flatMap_lines_cons {line : Text} (clean : '\n' ∉ line) (rest : Text) :
    (lines (line ++ '\n' :: rest)).flatMap give = give line ++ (lines rest).flatMap give := by
  rw [lines_cons line rest clean, List.flatMap_cons]

include ignores

theorem flatMap_lines_single {line : Text} (clean : '\n' ∉ line) :
    (lines line).flatMap give = give line := by
  cases line with
  | nil => exact ignores.silent.symm
  | cons c rest => rw [lines_singleton _ clean (List.cons_ne_nil c rest), List.flatMap_singleton]

theorem flatMap_lines_joined {rows : List EndedLine} (ended : Bool)
    (feeds : ∀ row ∈ rows, row.lineEnd ≠ .carriageReturn) :
    (lines (joined rows ended)).flatMap give = (rows.map (·.content)).flatMap give := by
  fun_induction joined rows ended with
  | case1 => rfl
  | case2 row =>
    rw [flatMap_lines_single ignores row.no_feed, List.map_singleton, List.flatMap_singleton]
  | case3 row rest ended _ ih =>
    rcases List.forall_mem_cons.mp feeds with ⟨feed, later⟩
    rw [List.map_cons, List.flatMap_cons, ← ih later]
    cases kind : row.lineEnd with
    | carriageReturn => exact absurd kind feed
    | lineFeed => exact flatMap_lines_cons row.no_feed (joined rest ended)
    | both =>
      have clean : '\n' ∉ row.content ++ ['\r'] := by simp [row.no_feed]
      calc
        (lines (row.content ++ ('\r' :: '\n' :: joined rest ended))).flatMap give
            = (lines ((row.content ++ ['\r']) ++ '\n' :: joined rest ended)).flatMap give := by
              rw [List.append_assoc, List.singleton_append]
        _ = give row.content ++ (lines (joined rest ended)).flatMap give := by
              rw [flatMap_lines_cons clean, ignores.no_return]

theorem flatMap_lines_return {line : Text} (no_feed : '\n' ∉ line) (no_return : '\r' ∉ line) (rest : Text) :
    (lines (unifyLineEnds (line ++ '\r' :: rest))).flatMap give =
      give line ++ (lines (unifyLineEnds rest)).flatMap give := by
  rw [unifyLineEnds_append no_return]
  by_cases apart : rest.head? = some '\n'
  · rcases List.head?_eq_some_iff.mp apart with ⟨others, rfl⟩
    have empty : (lines ('\n' :: unifyLineEnds others)).flatMap give =
        give [] ++ (lines (unifyLineEnds others)).flatMap give :=
      flatMap_lines_cons List.not_mem_nil (unifyLineEnds others)
    rw [unifyLineEnds_both, unifyLineEnds_feed, flatMap_lines_cons no_feed, empty, ignores.silent,
      List.nil_append]
  · rw [unifyLineEnds_return apart, flatMap_lines_cons no_feed]

theorem flatMap_lines_unified (rows : List EndedLine) (ended : Bool) :
    (lines (unifyLineEnds (joined rows ended))).flatMap give = (rows.map (·.content)).flatMap give := by
  fun_induction joined rows ended with
  | case1 => rfl
  | case2 row =>
    have unchanged := unifyLineEnds_append row.no_return []
    rw [List.append_nil, unifyLineEnds, List.append_nil] at unchanged
    rw [unchanged, flatMap_lines_single ignores row.no_feed, List.map_singleton,
      List.flatMap_singleton]
  | case3 row rest ended _ ih =>
    rw [List.map_cons, List.flatMap_cons, ← ih]
    cases row.lineEnd with
    | carriageReturn => exact flatMap_lines_return ignores row.no_feed row.no_return (joined rest ended)
    | lineFeed =>
      rw [unifyLineEnds_append row.no_return, LineEnd.text, List.singleton_append, unifyLineEnds_feed,
        flatMap_lines_cons row.no_feed]
    | both =>
      rw [unifyLineEnds_append row.no_return, LineEnd.text, List.cons_append, List.singleton_append,
        unifyLineEnds_both, flatMap_lines_cons row.no_feed]

theorem flatMap_lines_join (rows : List EndedLine) :
    (lines (join ['\n'] (rows.map (·.content)))).flatMap give = (rows.map (·.content)).flatMap give := by
  rw [← joined_withFeed, flatMap_lines_joined ignores false]
  · rw [List.map_map]
    rfl
  · simp [EndedLine.withFeed]

end Gathering

end Text

namespace Reader

open Text (EndedLine joined)

theorem routesAt_ignores (application : Option Text) : Text.IgnoresEnds (routesAt application) where
  silent := routesAt_of_barren (empty_line_barren application)
  no_return := fun line => by rw [routesAt, readingOf, Text.withoutLineEnd_append_return]; rfl

theorem engineAt_ignores (application : Option Text) :
    Text.IgnoresEnds fun line => (engineAt application line).toList where
  silent := by rw [engineAt_of_barren (empty_line_barren application)]; rfl
  no_return := fun line => by rw [engineAt, readingOf, Text.withoutLineEnd_append_return]; rfl

theorem linesOfOctets_encode (text : Text) :
    linesOfOctets (Utf8.encode text) = (Text.lines (Text.unifyLineEnds text), .complete) := by
  rw [linesOfOctets, Utf8.decode_encode]

theorem routesOf?_complete (reader : Reader) (lines : List Text) :
    reader.routesOf? lines .complete = some (lines.flatMap (routesAt reader.application)) := by
  rw [routesOf?, if_pos rfl]
  exact congrArg some (List.flatMap_map ..)

/-- Lines that end in line feeds, with or without carriage returns, are read as if they were joined by
line feeds, and so are the octets of lines that end in either of these ways or in carriage returns
alone. -/
theorem line_ends_immaterial (reader : Reader) (errors : Option Text) (rows : List EndedLine) (ended : Bool) :
    let (after, routes) := reader.read (Text.join ['\n'] (rows.map (·.content))) errors
    ((∀ row ∈ rows, row.lineEnd ≠ .carriageReturn) →
      (reader.read (joined rows ended) errors).2 = routes ∧
        (reader.read (joined rows ended) errors).1.engines = after.engines) ∧
      ∃ lines, linesOfOctets (Utf8.encode (joined rows ended)) = (lines, .complete) ∧
        reader.routesOf? lines .complete = some routes ∧
        (reader.readLines lines).engines = after.engines := by
  have routes := routesAt_ignores reader.application
  have engines := engineAt_ignores reader.application
  rcases reader.read_eq (Text.join ['\n'] (rows.map (·.content))) errors with ⟨plainRoutes, plainEngines⟩
  rw [Text.flatMap_lines_join routes] at plainRoutes
  rw [Text.flatMap_lines_join engines] at plainEngines
  constructor
  · intro feeds
    rcases reader.read_eq (joined rows ended) errors with ⟨readRoutes, readEngines⟩
    rw [Text.flatMap_lines_joined routes ended feeds] at readRoutes
    rw [Text.flatMap_lines_joined engines ended feeds] at readEngines
    exact ⟨readRoutes.trans plainRoutes.symm, readEngines.trans plainEngines.symm⟩
  · refine ⟨_, linesOfOctets_encode (joined rows ended), ?_, ?_⟩
    · rw [routesOf?_complete, Text.flatMap_lines_unified routes]
      exact congrArg some plainRoutes.symm
    · rw [engines_readLines, List.filterMap_eq_flatMap_toList, Text.flatMap_lines_unified engines]
      exact plainEngines.symm

def mixedRows (first : Text.LineEnd) : List EndedLine :=
  [⟨usersLine, first, by decide, by decide⟩, ⟨[], .lineFeed, by decide, by decide⟩,
    ⟨"blog /blog\u2028 Blog::Engine\x85".toList, .both, by decide, by decide⟩]

theorem line_ends_of_mixedRows :
    (∀ row ∈ mixedRows .both, row.lineEnd ≠ .carriageReturn) ∧
      ((new none).read (joined (mixedRows .both) false) none).1.engines =
        [⟨"Blog::Engine".toList, "/blog".toList⟩] ∧
      ∃ lines, linesOfOctets (Utf8.encode (joined (mixedRows .carriageReturn) false)) = (lines, .complete) ∧
        (new none).routesOf? lines .complete =
          some ((new none).read (joined (mixedRows .both) false) none).2 := by
  have feeds : ∀ row ∈ mixedRows .both, row.lineEnd ≠ .carriageReturn := by simp [mixedRows]
  have plain : ((new none).read (Text.join ['\n'] ((mixedRows .both).map (·.content))) none).1.engines =
      [⟨"Blog::Engine".toList, "/blog".toList⟩] := by
    decide +kernel
  rcases line_ends_immaterial (new none) none (mixedRows .both) false with ⟨feedsOnly, _⟩
  rcases line_ends_immaterial (new none) none (mixedRows .carriageReturn) false with
    ⟨_, lines, decoded, routes, _⟩
  rcases feedsOnly feeds with ⟨sameRoutes, sameEngines⟩
  exact ⟨feeds, sameEngines.trans plain, lines, decoded, routes.trans (congrArg some sameRoutes.symm)⟩

end Reader

end RouteReport
