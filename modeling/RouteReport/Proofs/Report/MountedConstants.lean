import RouteReport.Proofs.Report.FailedStream
import RouteReport.Proofs.Report.RoundTrip

/-! Applications mounted under a path. Which texts are constants and which names a target is searched for
are told apart by different characters, so a constant can be passed over, or taken for a part of it. -/

namespace RouteReport

inductive MountsConstant (constant : Text) : Text → Prop
  | bare : MountsConstant constant constant
  | keyed : MountsConstant constant ("\x7b:to => ".toList ++ (constant ++ ['}']))

/-- The route of an application that is mounted under a path. -/
def Route.mountedAt (application : Option Text) (path constant : Text) : Route :=
  ⟨application, .any, path, constant, [], [], .mounted⟩

/-- The line of a path and a target, with neither a name nor verbs. -/
def mountingLine (path target : Text) : Text := ' ' :: (path ++ ' ' :: target)

/-- What a reader gives for the line is one route, of the whole constant as a mounted application, and it
knows of that engine alone. -/
def Reader.MountsWhole (reader : Reader) (errors : Option Text) (path target constant : Text) : Prop :=
  let (after, routes) := reader.read (mountingLine path target) errors
  routes = [Route.mountedAt reader.application path constant] ∧ after.engines = [⟨constant, path⟩]

instance (reader : Reader) (errors : Option Text) (path target constant : Text) :
    Decidable (reader.MountsWhole errors path target constant) :=
  inferInstanceAs (Decidable (_ ∧ _))

namespace Endpoint

theorem rackName?_append {front : Text} (none_starts : ∀ c ∈ front, startsRack c = false) (rest : Text) :
    rackName? (front ++ rest) = rackName? rest := by
  induction front with
  | nil => rfl
  | cons c others ih =>
    obtain ⟨first, later⟩ := List.forall_mem_cons.mp none_starts
    simp [rackName?, first, ih later]

theorem rackName?_concat {last : Char} (outside : inRack last = false) (text : Text) :
    rackName? (text ++ [last]) = rackName? text := by
  induction text with
  | nil => simp [rackName?]
  | cons c rest ih =>
    have ended : (rest ++ [last]).takeWhile inRack = rest.takeWhile inRack := by
      rw [List.takeWhile_append]
      split
      · rename_i whole
        rw [(List.takeWhile_prefix inRack).eq_of_length whole]
        simp [outside]
      · rfl
    have next : (rest ++ [last] : Text).head?.any inRack = rest.head?.any inRack := by
      cases rest with
      | nil => simpa using outside
      | cons d others => rfl
    rw [List.cons_append, rackName?, next, ended, ih, rackName?]

end Endpoint

section Constant

variable {constant target : Text} (named : isConstantName constant = true) (oneLine : '\n' ∉ constant)
  (relative : ¬ scopeMark <+: constant) (written : MountsConstant constant target)

include named oneLine relative written

theorem MountsConstant.read : isRedirectTarget target = false ∧
    Endpoint.ofTarget target = ⟨(Endpoint.rackName? constant).getD [], []⟩ := by
  have path : isConstantPath constant = true := by rwa [isConstantName_eq oneLine] at named
  cases written with
  | bare => exact Endpoint.ofTarget_constant relative path
  | keyed =>
    have noRedirect : isRedirectTarget ("\x7b:to => ".toList ++ (constant ++ ['}'])) = false := by
      rw [Bool.eq_false_iff, ne_eq, isRedirectTarget_of_head (by simp; decide)]
      intro starts
      have same : 'r' = '{' := (List.cons_prefix_cons.mp starts).1
      cases same
    have noHash : '#' ∉ "\x7b:to => ".toList ++ (constant ++ ['}']) := by
      have inConstant : '#' ∉ constant := not_mem_path path (by decide) (by decide)
      simp [inConstant]
    have silent {next : Char} (noSpace : next ≠ ' ') (noBrace : next ≠ '}') (noColon : next ≠ ':')
        (noCapital : Text.isAsciiUpper next = false) (inKey : ¬ [':', next] <:+: "\x7b:to =>".toList) :
        ¬ [':', next] <:+: "\x7b:to => ".toList ++ (constant ++ ['}']) := by
      have shape : "\x7b:to => ".toList ++ (constant ++ ['}']) =
          "\x7b:to =>".toList ++ ' ' :: (constant ++ '}' :: []) := rfl
      rw [shape, Text.infix_append_cons_iff (by simp [noSpace.symm]),
        Text.infix_append_cons_iff (by simp [noBrace.symm])]
      exact not_or.mpr ⟨inKey, not_or.mpr
        ⟨no_symbol_of_isConstantPath relative path noColon noCapital, by simp⟩⟩
    have rack : Endpoint.rackName? ("\x7b:to => ".toList ++ (constant ++ ['}'])) =
        Endpoint.rackName? constant := by
      rw [Endpoint.rackName?_append (by decide), Endpoint.rackName?_concat (by decide)]
    refine ⟨noRedirect, ?_⟩
    rw [Endpoint.ofTarget_of_silent noRedirect noHash
      (silent (by decide) (by decide) (by decide) rfl (by decide))
      (silent (by decide) (by decide) (by decide) rfl (by decide)), rack]

omit relative in
theorem MountsConstant.isField : IsField target := by
  cases written with
  | bare =>
    have path : isConstantPath constant = true := by rwa [isConstantName_eq oneLine] at named
    have nonempty : constant ≠ [] := by
      rintro rfl
      cases named
    exact ⟨nonempty, oneLine, Text.trim_of_printable fun _ present => printable_path path present⟩
  | keyed =>
    refine ⟨List.cons_ne_nil _ _, by simp [oneLine], Text.trim_of_ends ?_ ?_⟩
    · intro c first
      rw [← Option.some.inj first]
      decide
    · intro c last
      rw [← List.append_assoc, List.getLast?_concat] at last
      rw [← Option.some.inj last]
      decide

end Constant

theorem exists_parts_mountingLine {path target : Text} (path_nonempty : path ≠ [])
    (path_solid : ∀ c ∈ path, Text.isBlank c = false) (rest_nonempty : target ≠ []) :
    ∃ parts : Columns.Parts, parts.line = mountingLine path target ∧ parts.path = path ∧
      parts.columns = ⟨[], [], path, target.trim⟩ := by
  refine ⟨{
    path := path
    afterPath := Text.spaces 1
    rest := target
    path_nonempty := path_nonempty
    path_solid := path_solid
    path_apart := Columns.isGap_spaces Nat.one_pos
    rest_nonempty := rest_nonempty
    afterName := []
    verbs := []
    afterVerbs := Text.spaces 1
    afterName_blank := List.forall_mem_nil _
    verbs_chars := List.forall_mem_nil _
    verbs_apart := Columns.isGap_spaces Nat.one_pos
    indent := []
    name := []
    indent_blank := List.forall_mem_nil _
    name_chars := List.forall_mem_nil _ }, rfl, rfl, rfl⟩

namespace LineReading

theorem kept_of_controller (application : Option Text) {path target controller : Text}
    (nonempty : path ≠ []) (noRedirect : isRedirectTarget target = false)
    (answer : Endpoint.ofTarget target = ⟨controller, []⟩) :
    (candidates application ⟨[], [], path, target⟩).filter (·.isValid) =
      if isConstantName controller then [Route.mountedAt application path controller] else [] := by
  have verbs : Text.splitOn [] '|' = [[]] := rfl
  have any : Verb.ofToken [] = .any := by decide
  rw [candidates, verbs, List.map_singleton, answer, any]
  cases constant : isConstantName controller with
  | true =>
    have mounted := RouteType.classify_eq_mounted_iff.mpr ⟨noRedirect, constant, rfl⟩
    simp [mounted, Route.isValid, nonempty, Route.mountedAt]
  | false =>
    have normal : RouteType.classify controller [] target = .normal := by
      simp [RouteType.classify, noRedirect, constant]
    simp [normal, Route.isValid]

end LineReading

section Reading

variable {constant path target : Text} (named : isConstantName constant = true)
  (oneLine : '\n' ∉ constant) (relative : ¬ scopeMark <+: constant) (slash : path.head? = some '/')
  (solid : ∀ c ∈ path, Text.isBlank c = false) (written : MountsConstant constant target)

include named oneLine relative slash solid written

omit relative slash in
theorem oneLine_mountingLine : '\n' ∉ mountingLine path target := by
  have inPath : '\n' ∉ path := fun present => absurd (solid '\n' present) (by decide)
  simp [mountingLine, inPath, (written.isField named oneLine).oneLine]

theorem routes?_mountingLine (application : Option Text) :
    (LineReading.ofLine application (mountingLine path target)).routes? =
      some (((Endpoint.rackName? constant).filter isConstantName).toList.map
        (Route.mountedAt application path)) := by
  have field := written.isField named oneLine
  obtain ⟨noRedirect, answer⟩ := written.read named oneLine relative
  have some_path : path ≠ [] := by
    rintro rfl
    cases slash
  rcases exists_parts_mountingLine some_path solid field.nonempty with ⟨parts, line, inPath, columns⟩
  have apart : parts.toEnding.StandsApart := Columns.Ending.standsApart_of_slash (inPath ▸ slash)
  have inLine : '\n' ∉ parts.line := line ▸ oneLine_mountingLine named oneLine solid written
  rw [← line, LineReading.routes?_of_standsApart apart application inLine, columns, field.trimmed,
    LineReading.kept_of_controller application some_path noRedirect answer]
  cases Endpoint.rackName? constant with
  | none => rfl
  | some name =>
    rw [Option.getD_some, Option.filter_some]
    split <;> rfl

theorem engine?_mountingLine (application : Option Text) :
    (LineReading.ofLine application (mountingLine path target)).engine? =
      ((Endpoint.rackName? constant).filter isConstantName).map fun name => ⟨name, path⟩ := by
  rw [LineReading.engine?, routes?_mountingLine named oneLine relative slash solid written]
  cases (Endpoint.rackName? constant).filter isConstantName with
  | none => rfl
  | some name => rfl

omit relative slash in
theorem lines_mountingLine : Text.lines (mountingLine path target) = [mountingLine path target] ∧
    Text.withoutLineEnd (mountingLine path target) = mountingLine path target := by
  have field := written.isField named oneLine
  have inLine := oneLine_mountingLine named oneLine solid written
  refine ⟨Text.lines_singleton _ inLine (List.cons_ne_nil _ _), ?_⟩
  apply Text.dropRightWhile_of_getLast
  intro c last
  have ending : (mountingLine path target).getLast? = target.getLast? := by
    have shape : mountingLine path target = (' ' :: (path ++ [' '])) ++ target := by simp [mountingLine]
    rw [shape, List.getLast?_append_of_ne_nil _ field.nonempty]
  have visible := field.getLast_not_blank (ending ▸ last)
  rw [Bool.eq_false_iff]
  intro lineEnd
  have ends : c = '\r' ∨ c = '\n' := by simpa using lineEnd
  rcases ends with rfl | rfl <;> cases visible

/-- A line with a path and a constant gives the constant as a mounted application, and tells of it as an
engine, just when the constant has two characters or more and all of them are of ASCII. Otherwise the
first name within it that has takes its place, if that is a constant, and if not the line gives
nothing. -/
theorem mounted_constant_iff (reader : Reader) (errors : Option Text) :
    (reader.MountsWhole errors path target constant ↔
        2 ≤ constant.length ∧ ∀ c ∈ constant, c.toNat < 128) ∧
      let (after, routes) := reader.read (mountingLine path target) errors
      ∃ found : Option Text, found = (Endpoint.rackName? constant).filter isConstantName ∧
        routes = found.toList.map (Route.mountedAt reader.application path) ∧
        after.engines = found.toList.map (fun name => ⟨name, path⟩) ∧
        ∀ name, found = some name →
          name <:+: constant ∧ 2 ≤ name.length ∧ ∀ c ∈ name, c.toNat < 128 := by
  have constantPath : isConstantPath constant = true := by rwa [← isConstantName_eq oneLine]
  obtain ⟨single, bare⟩ := lines_mountingLine named oneLine solid written
  obtain ⟨routes, engines⟩ := reader.read_eq (mountingLine path target) errors
  have given : (reader.read (mountingLine path target) errors).2 =
      ((Endpoint.rackName? constant).filter isConstantName).toList.map
        (Route.mountedAt reader.application path) := by
    rw [routes, single, List.flatMap_singleton, Reader.routesAt, Reader.readingOf, bare,
      routes?_mountingLine named oneLine relative slash solid written]
    rfl
  have told : (reader.read (mountingLine path target) errors).1.engines =
      ((Endpoint.rackName? constant).filter isConstantName).toList.map fun name => ⟨name, path⟩ := by
    rw [engines, single, List.flatMap_singleton, Reader.engineAt, Reader.readingOf, bare,
      engine?_mountingLine named oneLine relative slash solid written]
    cases (Endpoint.rackName? constant).filter isConstantName <;> rfl
  have whole : (Endpoint.rackName? constant).filter isConstantName = some constant ↔
      2 ≤ constant.length ∧ ∀ c ∈ constant, c.toNat < 128 := by
    rw [← Endpoint.rackName?_eq_self_iff relative constantPath, Option.filter_eq_some_iff]
    exact and_iff_left named
  refine ⟨⟨?_, ?_⟩, _, rfl, given, told, ?_⟩
  · rintro ⟨-, engine⟩
    obtain ⟨name, found, same⟩ := List.map_eq_singleton_iff.mp (told.symm.trans engine)
    have itself : name = constant := congrArg Engine.name same
    exact whole.mp (Option.toList_eq_singleton_iff.mp (itself ▸ found))
  · intro plain
    rw [whole.mpr plain] at given told
    exact ⟨given, told⟩
  · intro name found
    obtain ⟨inside, long, chars⟩ := Endpoint.rackName?_sound (Option.filter_eq_some_iff.mp found).1
    exact ⟨inside, long, fun c present => Endpoint.ascii_of_inRack (chars c present)⟩

end Reading

theorem mounted_constants_of_report :
    (Reader.new none).MountsWhole none "/sidekiq".toList "\x7b:to => Sidekiq::Web\x7d".toList
        "Sidekiq::Web".toList ∧
      ¬ (Reader.new none).MountsWhole none "/blog".toList "Café::Engine".toList
        "Café::Engine".toList := by
  constructor
  · have written : MountsConstant "Sidekiq::Web".toList "\x7b:to => Sidekiq::Web\x7d".toList := .keyed
    exact (mounted_constant_iff (by decide) (by decide) (by decide) (by decide) (by decide)
      written (Reader.new none) none).1.mpr (by decide)
  · intro whole
    obtain ⟨_, plain⟩ := (mounted_constant_iff (by decide) (by decide) (by decide) (by decide)
      (by decide) .bare (Reader.new none) none).1.mp whole
    exact absurd plain (by decide)

theorem mounted_constant_in_part :
    ¬ ∀ (reader : Reader) (errors : Option Text) (constant path target : Text),
      isConstantName constant = true → '\n' ∉ constant → ¬ scopeMark <+: constant →
        path.head? = some '/' → (∀ c ∈ path, Text.isBlank c = false) → MountsConstant constant target →
        reader.MountsWhole errors path target constant := by
  intro always
  have whole := always (Reader.new none) none "Café::Engine".toList "/blog".toList _
    (by decide) (by decide) (by decide) (by decide) (by decide) .bare
  exact absurd whole (by decide)

end RouteReport
