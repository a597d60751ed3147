import RouteReport.Proofs.Report.Locality
import RouteReport.Proofs.Report.Soundness

/-! A stream that fails after some of its lines. The routes of these lines are lost, but the reader takes
an engine as soon as a line tells of one, and keeps it. -/

namespace RouteReport

/-- What the columns of a mounted application have: no second verb, and for a target a constant without
an action, to which requests are not merely redirected. -/
structure Columns.Mounts (columns : Columns) (engine : Engine) : Prop where
  single : '|' ∉ columns.verbs
  no_redirect : isRedirectTarget columns.target = false
  constant : isConstantName (Endpoint.ofTarget columns.target).controller = true
  no_action : (Endpoint.ofTarget columns.target).action = []
  name : engine.name = (Endpoint.ofTarget columns.target).controller
  path : engine.mountPath = columns.path

/-- The line announces nothing and has the columns of a mounted application. -/
def TellsOf (line : Text) (engine : Engine) : Prop :=
  LineReading.ofAnnouncement? line = none ∧
    ∃ columns, Columns.ofLine? line = some columns ∧ columns.Mounts engine

theorem RouteType.classify_eq_mounted_iff {controller action target : Text} :
    classify controller action target = .mounted ↔
      isRedirectTarget target = false ∧ isConstantName controller = true ∧ action = [] := by
  constructor
  · intro type
    obtain ⟨no_action, constant⟩ := fields_of_mounted type
    refine ⟨?_, constant, no_action⟩
    rw [Bool.eq_false_iff]
    intro redirect
    rw [classify, redirect] at type
    cases type
  · rintro ⟨no_redirect, constant, rfl⟩
    have nonempty : controller ≠ [] := by
      rintro rfl
      exact absurd constant (by decide)
    simp [classify, no_redirect, constant, nonempty]

namespace LineReading

variable {application : Option Text} {columns : Columns}

theorem isValid_of_mounted (sound : columns.Sound)
    (mounted : RouteType.classify (Endpoint.ofTarget columns.target).controller
      (Endpoint.ofTarget columns.target).action columns.target = .mounted)
    {route : Route} (member : route ∈ candidates application columns) : route.isValid = true := by
  obtain ⟨verb, _, rfl⟩ := List.mem_map.mp member
  simp [Route.isValid, mounted, sound.path_nonempty]

theorem engine?_ofData_iff {line : Text} {engine : Engine} :
    (ofData application line).engine? = some engine ↔
      ∃ columns, Columns.ofLine? line = some columns ∧ columns.Mounts engine := by
  rw [ofData]
  cases found : Columns.ofLine? line with
  | none => simp [engine?, routes?]
  | some columns =>
    have sound := Columns.sound_of_ofLine? found
    simp only [Option.some.injEq, exists_eq_left', engine?_eq_some_iff, routes?]
    constructor
    · rintro ⟨route, kept, mounted, rfl⟩
      have among : route ∈ candidates application columns :=
        List.mem_of_mem_filter (kept ▸ List.mem_singleton_self route)
      obtain ⟨verb, _, rfl⟩ := List.mem_map.mp among
      obtain ⟨no_redirect, constant, no_action⟩ := RouteType.classify_eq_mounted_iff.mp mounted
      rw [List.filter_eq_self.mpr fun _ => isValid_of_mounted sound mounted] at kept
      obtain ⟨piece, pieces, _⟩ := List.map_eq_singleton_iff.mp kept
      exact {
        single := Text.not_mem_of_splitOn_eq_singleton pieces
        no_redirect, constant, no_action
        name := by simp [Route.endpoint, no_action]
        path := rfl }
    · intro mounts
      have mounted := RouteType.classify_eq_mounted_iff.mpr
        ⟨mounts.no_redirect, mounts.constant, mounts.no_action⟩
      rw [List.filter_eq_self.mpr fun _ => isValid_of_mounted sound mounted, candidates,
        Text.splitOn_of_not_mem '|' columns.verbs mounts.single]
      refine ⟨_, rfl, mounted, ?_⟩
      rw [Route.endpoint, if_pos (List.isEmpty_iff.mpr mounts.no_action), ← mounts.name, ← mounts.path]

theorem engine?_ofLine_iff {line : Text} {engine : Engine} :
    (ofLine application line).engine? = some engine ↔ TellsOf line engine := by
  rw [ofLine, TellsOf]
  cases announced : ofAnnouncement? line with
  | none => simp [engine?_ofData_iff]
  | some reading => simp [engine?, routes?_of_announcement announced]

end LineReading

namespace Reader

/-- One turn of the reader: the engine of a line goes to the reader, its routes to those of the report. -/
def take (state : Reader × Routes) (line : Text) : Reader × Routes :=
  let reading := readingOf state.1.application line
  ({ state.1 with engines := state.1.engines ++ reading.engine?.toList },
    state.2 ++ reading.routes?.getD [])

/-- What the reader is before the first line. -/
def fresh (reader : Reader) : Reader := { reader with engines := [] }

theorem engines_readLines (reader : Reader) (lines : List Text) :
    (reader.readLines lines).engines = lines.filterMap (engineAt reader.application) :=
  List.filterMap_map ..

theorem engines_readLines_append (reader : Reader) (front back : List Text) :
    (reader.readLines (front ++ back)).engines =
      (reader.readLines front).engines ++ (reader.readLines back).engines := by
  simp only [engines_readLines, List.filterMap_append]

theorem take_readLines (reader : Reader) (front : List Text) (line : Text) :
    take (reader.readLines front, front.flatMap (routesAt reader.application)) line =
      (reader.readLines (front ++ [line]),
        (front ++ [line]).flatMap (routesAt reader.application)) := by
  have gathered : (reader.readLines (front ++ [line])).engines =
      (reader.readLines front).engines ++ (engineAt reader.application line).toList := by
    rw [engines_readLines_append, engines_readLines reader [line]]
    cases told : engineAt reader.application line <;> simp [told]
  have next : reader.readLines (front ++ [line]) = { reader with
      engines := (reader.readLines front).engines ++ (engineAt reader.application line).toList } := by
    rw [← gathered]
    rfl
  rw [next, List.flatMap_append, List.flatMap_singleton]
  rfl

theorem foldl_take (reader : Reader) (lines : List Text) :
    lines.foldl take (reader.fresh, []) =
      (reader.readLines lines, lines.flatMap (routesAt reader.application)) := by
  induction lines using List.reverseRecOn with
  | nil => rfl
  | append_singleton front line ih =>
    rw [List.foldl_append, ih, List.foldl_cons, List.foldl_nil, take_readLines]

theorem mem_engines_readLines_iff {reader : Reader} {lines : List Text} {engine : Engine} :
    engine ∈ (reader.readLines lines).engines ↔
      ∃ line ∈ lines, TellsOf (Text.withoutLineEnd line) engine := by
  rw [engines_readLines, List.mem_filterMap]
  simp only [engineAt, readingOf, LineReading.engine?_ofLine_iff]

end Reader

/-- After a stream that fails there are no routes, and the failure of the reader is as it was before. Its
engines are those that the loop had gathered, no earlier ones among them, so none is left just when no
line tells of one. Had the stream gone on, they would have been the first of its report. -/
theorem failed_stream (reader : Reader) (lines : List Text) :
    reader.routesOf? lines .unreadable = none ∧
      (reader.readLines lines).failure = reader.failure ∧
      reader.readLines lines = (lines.foldl Reader.take (reader.fresh, [])).1 ∧
      (∀ engine, engine ∈ (reader.readLines lines).engines ↔
        ∃ line ∈ lines, TellsOf (Text.withoutLineEnd line) engine) ∧
      ((reader.readLines lines).engines = [] ↔
        ∀ line ∈ lines, ∀ engine, ¬ TellsOf (Text.withoutLineEnd line) engine) ∧
      ∀ later, (reader.readLines lines).engines <+: (reader.readLines (lines ++ later)).engines := by
  refine ⟨rfl, rfl, by rw [Reader.foldl_take], fun _ => Reader.mem_engines_readLines_iff, ?_, ?_⟩
  · rw [List.eq_nil_iff_forall_not_mem]
    simp only [Reader.mem_engines_readLines_iff, not_exists, not_and]
    exact ⟨fun none_told line member engine => none_told engine line member,
      fun none_told engine line member => none_told line member engine⟩
  · intro later
    rw [Reader.engines_readLines_append]
    exact List.prefix_append _ _

theorem failed_stream_of_mount :
    ¬ ∀ (reader : Reader) (lines : List Text),
      reader.routesOf? lines .unreadable = none ∧ (reader.readLines lines).engines = [] ∧
        (reader.readLines lines).failure = reader.failure := by
  intro always
  obtain ⟨_, discarded, _⟩ := always (Reader.new none) [Reader.mountLine]
  exact absurd discarded (by decide)

end RouteReport
