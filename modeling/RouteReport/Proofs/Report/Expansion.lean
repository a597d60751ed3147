import Mathlib.Data.List.Flatten
import RouteReport.Proofs.Report.FailedStream
import RouteReport.Proofs.Report.Grammar

namespace RouteReport

theorem Text.length_splitOn (text : Text) (separator : Char) :
    (text.splitOn separator).length = text.count separator + 1 := by
  induction text with
  | nil => rfl
  | cons c rest ih =>
    by_cases cut : c = separator
    · simp [splitOn, cut, ih]
    · obtain ⟨piece, pieces, shape⟩ := List.exists_cons_of_ne_nil (splitOn_ne_nil rest separator)
      rw [shape] at ih
      simpa [splitOn, cut, shape] using ih

theorem flatMap_ite {α β : Type} (chosen : α → Prop) [DecidablePred chosen] (give : α → List β)
    (list : List α) :
    (list.flatMap fun a => if chosen a then give a else []) =
      (list.filter fun a => chosen a).flatMap give := by
  induction list with
  | nil => rfl
  | cons a rest ih => by_cases here : chosen a <;> simp [here, ih]

/-- A mounted application as the route of its line has it. -/
def Route.mount (route : Route) : Engine := ⟨route.controller, route.path⟩

/-- A single route, and a mounted one. -/
def MountsAlone (routes : Routes) : Prop := ∃ route, routes = [route] ∧ route.type = .mounted

instance (routes : Routes) : Decidable (MountsAlone routes) :=
  match routes with
  | [] => isFalse (by simp [MountsAlone])
  | [route] => decidable_of_iff (route.type = .mounted) (by simp [MountsAlone])
  | _ :: _ :: _ => isFalse (by simp [MountsAlone])

namespace LineReading

variable {application : Option Text} {columns : Columns}

/-- What the routes of a line have in common. -/
def shared (application : Option Text) (columns : Columns) : Route :=
  let endpoint := Endpoint.ofTarget columns.target
  ⟨application, .any, columns.path, endpoint.controller, endpoint.action, columns.name,
    .classify endpoint.controller endpoint.action columns.target⟩

theorem candidates_eq (application : Option Text) (columns : Columns) :
    candidates application columns = (columns.verbs.splitOn '|').map fun token =>
      { shared application columns with verb := .ofToken token } := rfl

theorem kept_all_or_none (application : Option Text) (columns : Columns) :
    (candidates application columns).filter (·.isValid) = [] ∨
      (candidates application columns).filter (·.isValid) = candidates application columns := by
  have same : ∀ route ∈ candidates application columns,
      route.isValid = (shared application columns).isValid := by
    intro route member
    obtain ⟨token, _, rfl⟩ := List.mem_map.mp member
    rfl
  cases valid : (shared application columns).isValid with
  | false => exact .inl (List.filter_eq_nil_iff.mpr fun route member => by simp [same route member, valid])
  | true => exact .inr (List.filter_eq_self.mpr fun route member => (same route member).trans valid)

theorem columns_of_routes? {line : Text} {routes : List Route}
    (read : (ofData application line).routes? = some routes) :
    ∃ columns, Columns.ofLine? line = some columns ∧
      (routes = [] ∨ routes = candidates application columns) := by
  rw [routes?_ofData, Option.map_eq_some_iff] at read
  obtain ⟨columns, found, rfl⟩ := read
  exact ⟨columns, found, kept_all_or_none application columns⟩

theorem single_of_candidates (single : '|' ∉ columns.verbs) {route : Route}
    (member : route ∈ candidates application columns) : candidates application columns = [route] := by
  rw [candidates_eq, Text.splitOn_of_not_mem '|' columns.verbs single] at member ⊢
  rw [List.mem_singleton.mp member]
  rfl

end LineReading

namespace Reader

variable {application : Option Text} {line : Text}

theorem routes?_of_mem_routesAt {route : Route} (member : route ∈ routesAt application line) :
    (readingOf application line).routes? = some (routesAt application line) := by
  unfold routesAt at member ⊢
  cases read : (readingOf application line).routes? with
  | none => simp [read] at member
  | some routes => rfl

theorem columns_of_mem_routesAt {route : Route} (member : route ∈ routesAt application line) :
    ∃ columns, Columns.ofLine? (Text.withoutLineEnd line) = some columns ∧
      routesAt application line = LineReading.candidates application columns := by
  have read := routes?_of_mem_routesAt member
  rw [readingOf, LineReading.ofLine] at read
  cases announced : LineReading.ofAnnouncement? (Text.withoutLineEnd line) with
  | some reading =>
    rw [announced, Option.getD_some, LineReading.routes?_of_announcement announced] at read
    cases read
  | none =>
    rw [announced, Option.getD_none] at read
    obtain ⟨columns, found, empty | all⟩ := LineReading.columns_of_routes? read
    · rw [empty] at member
      cases member
    · exact ⟨columns, found, all⟩

theorem sound_of_mem_routesAt {route : Route} (member : route ∈ routesAt application line) : route.Sound :=
  LineReading.sound_of_mem_routes? (routes?_of_mem_routesAt member) member

theorem endpoint_of_mem_routesAt {route : Route} (member : route ∈ routesAt application line)
    (mounted : route.type = .mounted) : (⟨route.endpoint, route.path⟩ : Engine) = route.mount := by
  have no_action := ((sound_of_mem_routesAt member).mounted mounted).1
  rw [Route.endpoint, no_action]
  rfl

theorem toList_engineAt (application : Option Text) (line : Text) :
    (engineAt application line).toList =
      if MountsAlone (routesAt application line) then (routesAt application line).map Route.mount
      else [] := by
  by_cases alone : MountsAlone (routesAt application line)
  · rw [if_pos alone]
    obtain ⟨route, single, mounted⟩ := alone
    have member : route ∈ routesAt application line := single ▸ List.mem_singleton_self route
    have told : engineAt application line = some route.mount :=
      LineReading.engine?_eq_some_iff.mpr ⟨route, single ▸ routes?_of_mem_routesAt member, mounted,
        endpoint_of_mem_routesAt member mounted⟩
    rw [told, single]
    rfl
  · rw [if_neg alone, Option.toList_eq_nil_iff, Option.eq_none_iff_forall_ne_some]
    intro engine told
    obtain ⟨route, single, mounted, _⟩ := LineReading.engine?_eq_some_iff.mp told
    exact alone ⟨route, by rw [routesAt, single, Option.getD_some], mounted⟩

theorem ofType_routesAt (unjoined : (∃ route ∈ routesAt application line, route.type = .mounted) →
      ∀ columns, Columns.ofLine? (Text.withoutLineEnd line) = some columns → '|' ∉ columns.verbs) :
    (routesAt application line).ofType .mounted =
      if MountsAlone (routesAt application line) then routesAt application line else [] := by
  by_cases mounts : ∃ route ∈ routesAt application line, route.type = .mounted
  · obtain ⟨route, member, mounted⟩ := mounts
    obtain ⟨columns, found, all⟩ := columns_of_mem_routesAt member
    rw [all] at member
    have single := LineReading.single_of_candidates
      (unjoined ⟨route, all ▸ member, mounted⟩ columns found) member
    rw [all, single, if_pos ⟨route, rfl, mounted⟩]
    simp [Routes.ofType, mounted]
  · have alone : ¬ MountsAlone (routesAt application line) := by
      rintro ⟨route, routes, mounted⟩
      exact mounts ⟨route, routes ▸ List.mem_singleton_self route, mounted⟩
    rw [if_neg alone, Routes.ofType, List.filter_eq_nil_iff]
    intro route member mounted
    exact mounts ⟨route, member, by simpa using mounted⟩

def mountsIn (application : Option Text) (lines : List Text) : Routes :=
  (lines.filter fun line => MountsAlone (routesAt application line)).flatMap (routesAt application)

theorem engines_eq (reader : Reader) (lines : List Text) :
    (reader.readLines lines).engines = (mountsIn reader.application lines).map Route.mount := by
  rw [engines_readLines, List.filterMap_eq_flatMap_toList, mountsIn, List.map_flatMap, ← flatMap_ite]
  exact congrArg lines.flatMap (funext (toList_engineAt reader.application))

theorem mountsIn_sublist (application : Option Text) (lines : List Text) :
    List.Sublist (mountsIn application lines)
      (Routes.ofType (lines.flatMap (routesAt application)) .mounted) := by
  have mounted : (mountsIn application lines).filter (·.type = .mounted) = mountsIn application lines := by
    rw [List.filter_eq_self]
    intro route member
    obtain ⟨line, chosen, inLine⟩ := List.mem_flatMap.mp member
    obtain ⟨only, routes, type⟩ : MountsAlone (routesAt application line) := by
      simpa using (List.mem_filter.mp chosen).2
    rw [routes, List.mem_singleton] at inLine
    simp [inLine, type]
  rw [← mounted]
  exact (List.filter_sublist.flatMap (routesAt application)).filter _

theorem ofType_flatMap {application : Option Text} {lines : List Text}
    (unjoined : ∀ line ∈ lines, (∃ route ∈ routesAt application line, route.type = .mounted) →
      ∀ columns, Columns.ofLine? (Text.withoutLineEnd line) = some columns → '|' ∉ columns.verbs) :
    Routes.ofType (lines.flatMap (routesAt application)) .mounted = mountsIn application lines := by
  rw [mountsIn, ← flatMap_ite, Routes.ofType, List.filter_flatMap]
  exact List.flatMap_congr fun line member => ofType_routesAt (unjoined line member)

/-- A line that can be read gives no route at all or one for each piece of its verbs, in their order, and
these differ in nothing but the request method. After a whole report the engines are the mounted routes of
the lines that have no other route. They are among the mounted routes of the report, and are all of
them where no line of a mounted application joins verbs. -/
theorem verbs_expand (reader : Reader) :
    (∀ line routes, (LineReading.ofData reader.application line).routes? = some routes →
      ∃ columns, Columns.ofLine? line = some columns ∧
        (routes = [] ∨ routes.length = columns.verbs.count '|' + 1 ∧
          ∃ shared : Route, routes = (columns.verbs.splitOn '|').map fun token =>
            { shared with verb := .ofToken token })) ∧
      ∀ lines, ∃ routes, reader.routesOf? lines .complete = some routes ∧
        (reader.readLines lines).engines =
          ((lines.filter fun line => MountsAlone (routesAt reader.application line)).flatMap
            (routesAt reader.application)).map Route.mount ∧
        List.Sublist (reader.readLines lines).engines ((routes.ofType .mounted).map Route.mount) ∧
        ((∀ line ∈ lines,
            (∃ route ∈ routesAt reader.application line, route.type = .mounted) →
            ∀ columns, Columns.ofLine? (Text.withoutLineEnd line) = some columns →
              '|' ∉ columns.verbs) →
          (reader.readLines lines).engines = (routes.ofType .mounted).map Route.mount) := by
  constructor
  · intro line routes read
    obtain ⟨columns, found, none_left | all⟩ := LineReading.columns_of_routes? read
    · exact ⟨columns, found, .inl none_left⟩
    · refine ⟨columns, found, .inr ⟨?_, _, all.trans (LineReading.candidates_eq _ _)⟩⟩
      rw [all, LineReading.candidates_eq, List.length_map, Text.length_splitOn]
  · intro lines
    refine ⟨lines.flatMap (routesAt reader.application), ?_, engines_eq reader lines, ?_, ?_⟩
    · rw [routesOf?, if_pos rfl]
      exact congrArg some (List.flatMap_map ..)
    · rw [engines_eq]
      exact (mountsIn_sublist reader.application lines).map Route.mount
    · intro unjoined
      rw [engines_eq, ofType_flatMap unjoined]

def jobsLine : Text := "jobs GET|POST /jobs Sidekiq::Web".toList

theorem verbs_expand_of_jobs :
    (∃ shared : Route, (LineReading.ofData none jobsLine).routes? =
        some [{ shared with verb := .get }, { shared with verb := .post }]) ∧
      ∃ routes, (new none).routesOf? [jobsLine, mountLine] .complete = some routes ∧
        List.Sublist [⟨"Blog::Engine".toList, "/blog".toList⟩]
          ((routes.ofType .mounted).map Route.mount) := by
  obtain ⟨expand, engines⟩ := verbs_expand (new none)
  constructor
  · have some_left : (LineReading.ofData none jobsLine).routes?.any (!·.isEmpty) = true := by
      decide
    have verbs : (Columns.ofLine? jobsLine).map (·.verbs) = some "GET|POST".toList := by decide +kernel
    obtain ⟨routes, read, nonempty⟩ := (Option.any_eq_true _ _).mp some_left
    obtain ⟨columns, found, rfl | ⟨_, shared, all⟩⟩ := expand jobsLine routes read
    · cases nonempty
    · rw [found, Option.map_some, Option.some.injEq] at verbs
      have pieces : (columns.verbs.splitOn '|').map Verb.ofToken = [.get, .post] := by
        rw [verbs]
        decide +kernel
      refine ⟨shared, ?_⟩
      rw [read, all]
      calc
        some ((columns.verbs.splitOn '|').map fun token => { shared with verb := Verb.ofToken token }) =
            some (((columns.verbs.splitOn '|').map Verb.ofToken).map fun verb =>
              { shared with verb }) := by rw [List.map_map, Function.comp_def]
        _ = _ := by rw [pieces]; rfl
  · obtain ⟨routes, read, _, among, _⟩ := engines [jobsLine, mountLine]
    have told : ((new none).readLines [jobsLine, mountLine]).engines =
        [⟨"Blog::Engine".toList, "/blog".toList⟩] := by
      decide +kernel
    exact ⟨routes, read, told ▸ among⟩

end Reader

end RouteReport
