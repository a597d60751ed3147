import Mathlib.Data.Option.Basic
import RouteReport.Proofs.TextSearch
import RouteReport.Report.Reader

/-! Whatever the task wrote, the routes read from it are sound: the columns have the characters of
columns, and the type of a route, found apart from its controller and action, agrees with both. -/

namespace RouteReport

/-- What holds of the columns of any line that has them. -/
structure Columns.Sound (columns : Columns) : Prop where
  name_chars : ∀ c ∈ columns.name, Columns.isNameChar c = true
  path_nonempty : columns.path ≠ []
  path_solid : ∀ c ∈ columns.path, Text.isBlank c = false

namespace Columns

theorem sound_of_pathAndTarget? {name verbs text : Text} {columns : Columns}
    (name_chars : ∀ c ∈ name, isNameChar c = true)
    (found : pathAndTarget? name verbs text = some columns) : columns.Sound := by
  unfold pathAndTarget? at found
  by_cases empty : (Text.run text (!Text.isBlank ·)).1.isEmpty = true
  · simp [empty] at found
  · simp only [empty] at found
    obtain ⟨target, _, rfl⟩ := Option.map_eq_some_iff.mp found
    exact {
      name_chars
      path_nonempty := by simpa using empty
      path_solid := fun c present => by simpa using List.mem_takeWhile_imp present }

theorem sound_of_afterName? {name text : Text} {columns : Columns}
    (name_chars : ∀ c ∈ name, isNameChar c = true)
    (found : afterName? name text = some columns) : columns.Sound := by
  unfold afterName? withVerbs? withoutVerbs? at found
  rcases (Option.orElse_eq_some _ _ _).mp found with verbs | ⟨_, noVerbs⟩
  · simp only [Option.ite_none_left_eq_some] at verbs
    exact sound_of_pathAndTarget? name_chars verbs.2
  · simp only [Option.ite_none_right_eq_some] at noVerbs
    exact sound_of_pathAndTarget? name_chars noVerbs.2

theorem sound_of_ofLine? {line : Text} {columns : Columns} (found : ofLine? line = some columns) :
    columns.Sound := by
  unfold ofLine? at found
  rcases (Option.orElse_eq_some _ _ _).mp found with named | ⟨_, unnamed⟩
  · simp only [Option.ite_none_left_eq_some] at named
    exact sound_of_afterName? (fun _ present => List.mem_takeWhile_imp present) named.2
  · exact sound_of_afterName? (by simp) unnamed

end Columns

namespace Endpoint

theorem valueAfterKey?_subset {text value : Text} (found : valueAfterKey? text = some value) :
    value ⊆ text := by
  obtain ⟨afterArrow, arrow, quoted⟩ := Option.bind_eq_some_iff.mp found
  have inText : Text.trimLeft afterArrow ⊆ text :=
    List.Subset.trans (Text.trimLeft_subset afterArrow)
      (List.Subset.trans (Text.afterPrefix?_subset arrow) (Text.trimLeft_subset text))
  cases shape : Text.trimLeft afterArrow with
  | nil => simp [shape] at quoted
  | cons quote others =>
    cases others with
    | nil => simp [shape] at quoted
    | cons first rest =>
      rw [shape] at quoted inText
      obtain ⟨_, _, closed⟩ := Option.bind_eq_some_iff.mp quoted
      obtain ⟨_, _, answer⟩ := Option.bind_eq_some_iff.mp closed
      rw [← Option.some.inj answer]
      intro c present
      apply inText
      rcases List.mem_cons.mp present with rfl | inBody
      · simp
      · simp [(List.takeWhile_prefix _).subset inBody]

theorem valueOf?_subset {key text value : Text} (found : valueOf? key text = some value) :
    value ⊆ text := by
  induction text with
  | nil => cases found
  | cons c rest ih =>
    unfold valueOf? at found
    rcases (Option.orElse_eq_some _ _ _).mp found with here | ⟨_, later⟩
    · obtain ⟨afterKey, key, hit⟩ := Option.bind_eq_some_iff.mp here
      exact List.Subset.trans (valueAfterKey?_subset hit) (Text.afterPrefix?_subset key)
    · exact List.Subset.trans (ih later) (List.subset_cons_self c rest)

theorem rackName?_subset {text constant : Text} (found : rackName? text = some constant) :
    constant ⊆ text := by
  induction text with
  | nil => cases found
  | cons c rest ih =>
    unfold rackName? at found
    split at found
    · rw [← Option.some.inj found]
      exact List.cons_subset_cons c (List.takeWhile_prefix inRack).subset
    · exact List.Subset.trans (ih found) (List.subset_cons_self c rest)

theorem no_hash (target : Text) : '#' ∉ (ofTarget target).controller := by
  unfold ofTarget
  split
  · simp
  · cases cut : Text.cut? target ['#'] with
    | some parts =>
      intro present
      exact Text.not_mem_of_cut? cut (Text.trim_subset _ present)
    | none =>
      have clean := Text.cut?_singleton_eq_none_iff.mp cut
      have inTarget : (valueOf? ":controller".toList target <|> rackName? target).getD [] ⊆ target := by
        cases found : valueOf? ":controller".toList target <|> rackName? target with
        | none => simp
        | some controller =>
          rcases (Option.orElse_eq_some _ _ _).mp found with value | ⟨_, rack⟩
          · exact valueOf?_subset value
          · exact rackName?_subset rack
      exact fun present => clean (inTarget present)

end Endpoint

/-- What holds of every route that is read from a report. -/
structure Route.Sound (route : Route) : Prop where
  valid : route.isValid = true
  path_nonempty : route.path ≠ []
  path_solid : ∀ c ∈ route.path, Text.isBlank c = false
  name_chars : ∀ c ∈ route.name, Columns.isNameChar c = true
  no_hash : '#' ∉ route.controller
  redirect : route.type = .redirect → route.controller = [] ∧ route.action = []
  mounted : route.type = .mounted → route.action = [] ∧ isConstantName route.controller = true
  normal : route.type = .normal → route.controller ≠ [] ∧ route.action ≠ []

theorem Route.fields_of_valid {route : Route} (valid : route.isValid = true)
    (normal : route.type = .normal) : route.controller ≠ [] ∧ route.action ≠ [] := by
  have parts : route.path ≠ [] ∧ route.controller ≠ [] ∧ route.action ≠ [] := by
    simpa [isValid, normal] using valid
  exact parts.2

theorem Route.Sound.cut?_endpoint {route : Route} (sound : route.Sound)
    (normal : route.type = .normal) :
    Text.cut? route.endpoint ['#'] = some (route.controller, route.action) := by
  have action : route.action.isEmpty = false := by simpa using (sound.normal normal).2
  rw [endpoint, action]
  exact Text.cut?_of_not_mem '#' route.controller route.action sound.no_hash

namespace RouteType

theorem target_of_redirect {controller action target : Text}
    (type : classify controller action target = .redirect) : isRedirectTarget target = true := by
  unfold classify at type
  split at type
  · assumption
  · split at type <;> cases type

theorem fields_of_mounted {controller action target : Text}
    (type : classify controller action target = .mounted) :
    action = [] ∧ isConstantName controller = true := by
  unfold classify at type
  split at type
  · cases type
  · split at type
    · rename_i mount
      simp only [Bool.and_eq_true, List.isEmpty_iff] at mount
      exact ⟨mount.1.2, mount.2⟩
    · cases type

end RouteType

namespace LineReading

theorem sound_of_mem_candidates {application : Option Text} {columns : Columns} {route : Route}
    (sound : columns.Sound) (member : route ∈ candidates application columns)
    (valid : route.isValid = true) : route.Sound := by
  obtain ⟨verb, _, rfl⟩ := List.mem_map.mp member
  exact {
    valid
    path_nonempty := sound.path_nonempty
    path_solid := sound.path_solid
    name_chars := sound.name_chars
    no_hash := Endpoint.no_hash columns.target
    redirect := by
      intro type
      have marked := RouteType.target_of_redirect type
      simp [Endpoint.ofTarget, marked]
    mounted := RouteType.fields_of_mounted
    normal := Route.fields_of_valid valid }

theorem routes?_of_announcement {line : Text} {reading : LineReading}
    (announced : ofAnnouncement? line = some reading) : reading.routes? = none := by
  unfold ofAnnouncement? at announced
  split at announced
  · rw [← Option.some.inj announced]
    rfl
  · obtain ⟨engine, _, rfl⟩ := Option.map_eq_some_iff.mp announced
    rfl

theorem sound_of_mem_routes? {application : Option Text} {line : Text} {routes : List Route}
    (read : (ofLine application line).routes? = some routes) {route : Route}
    (member : route ∈ routes) : route.Sound := by
  unfold ofLine at read
  cases announced : ofAnnouncement? line with
  | some reading =>
    rw [announced, Option.getD_some, routes?_of_announcement announced] at read
    cases read
  | none =>
    rw [announced, Option.getD_none, ofData] at read
    cases found : Columns.ofLine? line with
    | none =>
      rw [found] at read
      cases read
    | some columns =>
      rw [found] at read
      rw [← Option.some.inj read] at member
      obtain ⟨candidate, valid⟩ := List.mem_filter.mp member
      exact sound_of_mem_candidates (Columns.sound_of_ofLine? found) candidate valid

end LineReading

/-- Every route of a report is sound, whatever the two outputs of the task are, and the endpoint of a
normal one is taken apart at its first hash. -/
theorem sound_of_mem_read (reader : Reader) (output : Text) (errors : Option Text) {route : Route}
    (member : route ∈ (reader.read output errors).2) :
    route.Sound ∧ (route.type = .normal →
      Text.cut? route.endpoint ['#'] = some (route.controller, route.action)) := by
  obtain ⟨reading, read, inReading⟩ := List.mem_flatMap.mp member
  obtain ⟨line, _, rfl⟩ := List.mem_map.mp read
  have sound : route.Sound := by
    generalize (reader.readErrors errors).application = application at inReading
    cases found : (LineReading.ofLine application (Text.withoutLineEnd line)).routes? with
    | none =>
      rw [found] at inReading
      cases inReading
    | some routes =>
      rw [found] at inReading
      exact LineReading.sound_of_mem_routes? found inReading
  exact ⟨sound, sound.cut?_endpoint⟩

def hashedReport : Text := "site GET /site(.:format) admin/site#show \x7b:to=>\"/a#b\"\x7d\n".toList

theorem sound_of_hashedReport :
    ∃ route ∈ ((Reader.new none).read hashedReport none).2, route.Sound ∧
      Text.cut? route.endpoint ['#'] = some ("admin/site".toList, "show".toList) := by
  obtain ⟨route, member, normal, controller, action⟩ :
      ∃ route ∈ ((Reader.new none).read hashedReport none).2, route.type = .normal ∧
        route.controller = "admin/site".toList ∧ route.action = "show".toList := by
    decide
  obtain ⟨sound, parts⟩ := sound_of_mem_read (Reader.new none) hashedReport none member
  refine ⟨route, member, sound, ?_⟩
  rw [parts normal, controller, action]

end RouteReport
