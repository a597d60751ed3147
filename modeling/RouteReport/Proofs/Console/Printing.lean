import RouteReport.Proofs.ConstantPath
import RouteReport.Proofs.Console.Tags
import RouteReport.Proofs.Report.Locality
import RouteReport.Proofs.Report.Soundness

/-! Which reports are printed to their end. What a report says stands in markup: its paths, its actions
and the trace of its failure are read for tags, and printing ends where they close what is not open. -/

namespace RouteReport.Console

theorem Renderer.print_fault_eq_none_iff {Fault : Type} {renderer : Renderer Fault}
    {drawings : List Drawing} :
    (renderer.print drawings).fault = none ↔
      ∀ drawing ∈ drawings, ∃ lines, renderer.draw drawing = .ok lines := by
  induction drawings with
  | nil => simp [print]
  | cons drawing rest ih =>
    rw [print, List.forall_mem_cons, ← ih]
    cases drawn : renderer.draw drawing <;> simp

theorem isStyleName_verbStyle (verb : Verb) : IsStyleName (verbStyle verb).toList := by
  cases verb <;> decide

theorem isPlain_ofNat (n : Nat) : isPlain (Text.ofNat n) = true :=
  isPlain_of_members (fun _ present => Text.isDigit_of_mem_ofNat present) (by decide) (by decide)

theorem isPlain_padLeft {text : Text} (plain : isPlain text = true) (width : Nat) :
    isPlain (text.padLeft width) = true := by
  have padding (n : Nat) : isPlain (Text.spaces n) = true :=
    List.all_eq_true.mpr fun c present => by
      rw [List.eq_of_mem_replicate present]
      decide
  rw [Text.padLeft, isPlain_append, padding, plain]
  rfl

theorem isPlain_countLine {label : String} (plain : isPlain label.toList = true) (width count : Nat) :
    ∀ line ∈ countLine label width count, isPlain line = true := by
  intro line member
  unfold countLine at member
  split at member
  · cases member
  · rw [List.mem_singleton.mp member, isPlain_append, plain, isPlain_padLeft (isPlain_ofNat count)]
    rfl

theorem isPlain_of_isConstantName {name : Text} (constant : isConstantName name = true) :
    isPlain name = true := by
  have ofPath {path : Text} (valid : isConstantPath path = true) : isPlain path = true :=
    isPlain_of_not_mem (not_mem_path valid (by decide) (by decide))
      (not_mem_path valid (by decide) (by decide))
  unfold isConstantName at constant
  cases ended : name.beforeSuffix? ['\n'] with
  | none =>
    rw [ended] at constant
    exact ofPath constant
  | some path =>
    rw [ended] at constant
    have plain : isPlain path = true := ofPath constant
    rw [Text.append_of_beforeSuffix? ended, isPlain_append, plain]
    decide

/-- The texts of a report that stand in its print as they are: the trace of its failure, its paths, and the
actions of its normal routes. -/
def ownTexts (failure : Failure) (routes : Routes) : List Text :=
  (if failure.isReported then [failure.trace] else []) ++ routes.flatMap fun route =>
    route.path :: if route.type = .normal then [route.className ++ '#' :: route.action] else []

theorem forall_mem_ownTexts {failure : Failure} {routes : Routes} {holds : Text → Prop} :
    (∀ text ∈ ownTexts failure routes, holds text) ↔
      (failure.isReported = true → holds failure.trace) ∧
        ∀ route ∈ routes, holds route.path ∧
          (route.type = .normal → holds (route.className ++ '#' :: route.action)) := by
  simp only [ownTexts, List.forall_mem_append, List.forall_mem_flatMap, List.forall_mem_cons]
  refine and_congr ?_ (forall₂_congr fun route _ => and_congr_right fun _ => ?_)
  · cases failure.isReported <;> simp
  · by_cases normal : route.type = .normal <;> simp [normal]

theorem mem_routeRows {routes : Routes} {actions : Option (List (Option Action))} {row : Route × Option Action}
    (member : row ∈ routeRows routes actions) : row.1 ∈ routes := by
  cases actions with
  | none =>
    obtain ⟨route, inRoutes, rfl⟩ := List.mem_map.mp member
    exact inRoutes
  | some actions => exact (List.of_mem_zip member).1

theorem map_fst_routeRows {routes : Routes} {actions : Option (List (Option Action))}
    (paired : ∀ found ∈ actions, routes.length ≤ found.length) :
    (routeRows routes actions).map (·.1) = routes := by
  cases actions with
  | none => simp [routeRows, Function.comp_def]
  | some actions => exact List.map_fst_zip (paired actions rfl)

def reportMarkups (routes : Routes) (reader : Reader) (actions : Option (List (Option Action))) : List Text :=
  (reportDrawings routes reader actions).flatMap Drawing.markups

theorem mem_routesTable {routes : Routes} {actions : Option (List (Option Action))}
    {row : Route × Option Action} (present : row ∈ routeRows routes actions) :
    row.1.path ∈ (routesTable routes actions).markups ∧
      actionCell row.1 ∈ (routesTable routes actions).markups := by
  have path : row.1.path ∈ (routeRows routes actions).map (·.1.path) := List.mem_map_of_mem present
  have action : actionCell row.1 ∈ (routeRows routes actions).map (actionCell ·.1) :=
    List.mem_map_of_mem present
  constructor <;> simp only [routesTable, Drawing.markups, List.flatMap_append, List.flatMap_cons,
    List.mem_cons, List.mem_append, path, action, true_or, or_true]

theorem mem_reportMarkups_of_mem_ownTexts {routes : Routes} {reader : Reader}
    {actions : Option (List (Option Action))} (paired : ∀ found ∈ actions, routes.length ≤ found.length)
    {text : Text} (own : text ∈ ownTexts reader.failure routes) (written : text ≠ []) :
    text ∈ reportMarkups routes reader actions := by
  rw [reportMarkups, reportDrawings, List.flatMap_append, List.mem_append]
  rcases List.mem_append.mp own with failed | routed
  · refine .inl ?_
    split at failed
    · rename_i reported
      -- a remark stands in for an empty trace, so only a written one is handed over
      obtain rfl := List.mem_singleton.mp failed
      simp [reported, failureDrawing, Drawing.markups, written]
    · cases failed
  · refine .inr ?_
    obtain ⟨route, inRoutes, standing⟩ := List.mem_flatMap.mp routed
    obtain ⟨row, inRows, rfl⟩ : ∃ row ∈ routeRows routes actions, row.1 = route :=
      List.mem_map.mp ((map_fst_routeRows paired).symm ▸ inRoutes)
    obtain ⟨path, action⟩ := mem_routesTable inRows
    have inTable : text ∈ (routesTable routes actions).markups := by
      rcases List.mem_cons.mp standing with rfl | acting
      · exact path
      · split at acting
        · rename_i normal
          obtain rfl := List.mem_singleton.mp acting
          simpa only [actionCell, normal] using action
        · cases acting
    rw [if_neg (by simpa using List.ne_nil_of_mem inRoutes)]
    simp only [List.flatMap_append, List.flatMap_cons, List.mem_append, inTable, true_or]

namespace Renderer.ReadsMarkup

variable {Fault : Type} {renderer : Renderer Fault} {accepted rejected : Text → Prop}
  (reads : renderer.ReadsMarkup accepted rejected)

include reads

theorem accepts_verbCell (route : Route) : accepted (verbCell route) := by
  apply reads.accepts_styled (isStyleName_verbStyle route.verb)
  cases route.verb <;> decide

theorem accepts_iconCell (action : Option Action) : accepted (iconCell action) := by
  cases action with
  | none => exact reads.untagged rfl
  | some action =>
    simp only [iconCell]
    cases action.icon <;> exact reads.accepts_styled (by decide) (by decide)

theorem accepts_name {route : Route} (sound : route.Sound) : accepted route.name :=
  reads.accepts_plain (isPlain_of_members sound.name_chars (by decide) (by decide))

theorem accepts_actionCell {route : Route} (sound : route.Sound)
    (own : route.type = .normal → accepted (route.className ++ '#' :: route.action)) :
    accepted (actionCell route) := by
  unfold actionCell
  split
  · rename_i mounted
    exact reads.accepts_styled (by decide) (isPlain_of_isConstantName (sound.mounted mounted).2)
  · exact reads.accepts_styled (by decide) (by decide)
  · rename_i normal
    exact own normal

theorem accepts_failureDrawing {failure : Failure} (own : accepted failure.trace) :
    ∀ markup ∈ (failureDrawing failure).markups, accepted markup := by
  have title : accepted (styled "bold red" (if failure.code = .taskNotFound then
      "Routes task not found" else "Routes task failed").toList) := by
    split <;> exact reads.accepts_styled (by decide) (by decide)
  have content : accepted (if failure.trace.isEmpty then "(no output)".toList else failure.trace) := by
    split
    · exact reads.accepts_plain (by decide)
    · exact own
  exact List.forall_mem_cons.mpr ⟨title, List.forall_mem_singleton.mpr content⟩

theorem accepts_routesTable {routes : Routes} {actions : Option (List (Option Action))}
    (sound : ∀ route ∈ routes, route.Sound)
    (own : ∀ route ∈ routes, accepted route.path ∧
      (route.type = .normal → accepted (route.className ++ '#' :: route.action))) :
    ∀ markup ∈ (routesTable routes actions).markups, accepted markup := by
  have column {header : Text} {cell : Route × Option Action → Text} (plain : isPlain header = true)
      (cells : ∀ row, row.1 ∈ routes → accepted (cell row)) :
      accepted header ∧ ∀ markup ∈ (routeRows routes actions).map cell, accepted markup :=
    ⟨reads.accepts_plain plain, List.forall_mem_map.mpr fun row present => cells row (mem_routeRows present)⟩
  refine List.forall_mem_cons.mpr ⟨reads.accepts_plain (by decide), List.forall_mem_flatMap.mpr ?_⟩
  rw [List.forall_mem_append]
  constructor
  · split
    · exact List.forall_mem_singleton.mpr <| List.forall_mem_cons.mpr <|
        column rfl fun row _ => reads.accepts_iconCell row.2
    · exact List.forall_mem_nil _
  · simp only [List.forall_mem_cons]
    exact ⟨column (by decide) fun row _ => reads.accepts_verbCell row.1,
      column (by decide) fun row present => (own row.1 present).1,
      column (by decide) fun row present =>
        reads.accepts_actionCell (sound row.1 present) (own row.1 present).2,
      column (by decide) fun row present => reads.accepts_name (sound row.1 present),
      List.forall_mem_nil _⟩

theorem accepts_engineLine {engine : Engine} (plain : isPlain engine.name = true)
    (path : accepted engine.mountPath) : accepted (engineLine engine) := by
  rw [engineLine, List.append_assoc, List.append_assoc]
  exact reads.accepts.behind (by decide)
    (reads.accepts.around (by decide) plain (reads.accepts.behind (by decide) path))

theorem accepts_summaryLine {routes : Routes} {actions : Option (List (Option Action))} {line : Text}
    (member : line ∈ summaryLines routes actions) : accepted line := by
  simp only [summaryLines, List.mem_append, List.mem_cons, List.not_mem_nil, or_false] at member
  rcases member with (((rfl | rfl | rfl) | mounted) | redirects) | unresolved
  · exact reads.accepts_styled (by decide) (by decide)
  · apply reads.accepts_plain
    rw [isPlain_append, isPlain_ofNat]
    decide
  · apply reads.accepts_plain
    rw [isPlain_append, isPlain_padLeft (isPlain_ofNat _)]
    decide
  · exact reads.accepts_plain (isPlain_countLine (by decide) _ _ line mounted)
  · exact reads.accepts_plain (isPlain_countLine (by decide) _ _ line redirects)
  · obtain ⟨count, counted, rfl⟩ := List.mem_map.mp unresolved
    exact reads.accepts.behind (by decide)
      (reads.accepts_styled (by decide) (isPlain_countLine (by decide) _ _ count counted))

theorem accepts_reportMarkups {routes : Routes} {reader : Reader} {actions : Option (List (Option Action))}
    (sound : ∀ route ∈ routes, route.Sound)
    (mounts : ∀ engine ∈ reader.engines, ∃ route ∈ routes, route.type = .mounted ∧
      engine = ⟨route.endpoint, route.path⟩)
    (own : ∀ text ∈ ownTexts reader.failure routes, accepted text) :
    ∀ drawing ∈ reportDrawings routes reader actions, ∀ markup ∈ drawing.markups, accepted markup := by
  obtain ⟨trace, fields⟩ := forall_mem_ownTexts.mp own
  have line {markup : Text} (readable : accepted markup) : ∀ text ∈ (Drawing.lines markup).markups,
      accepted text := List.forall_mem_singleton.mpr readable
  have empty : accepted [] := reads.untagged rfl
  have blank := line empty
  rw [reportDrawings, List.forall_mem_append]
  constructor
  · split
    · rename_i reported
      exact List.forall_mem_singleton.mpr (reads.accepts_failureDrawing (trace reported))
    · exact List.forall_mem_nil _
  split
  · exact List.forall_mem_singleton.mpr (line (reads.accepts_styled (by decide) (by decide)))
  simp only [List.forall_mem_append, List.forall_mem_cons]
  refine ⟨⟨⟨reads.accepts_routesTable sound fields, blank, List.forall_mem_nil _⟩,
    ?_⟩, ?_⟩
  · unfold engineDrawings
    split
    · exact List.forall_mem_nil _
    · simp only [List.forall_mem_append, List.forall_mem_singleton, List.forall_mem_map]
      refine ⟨⟨line (reads.accepts_styled (by decide) (by decide)), fun engine member => ?_⟩, blank⟩
      obtain ⟨route, inRoutes, mounted, rfl⟩ := mounts engine member
      obtain ⟨noAction, constant⟩ := (sound route inRoutes).mounted mounted
      refine line (reads.accepts_engineLine ?_ (fields route inRoutes).1)
      simpa [Route.endpoint, noAction] using isPlain_of_isConstantName constant
  · simp only [summaryDrawings, List.forall_mem_append, List.forall_mem_singleton, List.forall_mem_map]
    exact ⟨fun text member => line (reads.accepts_summaryLine member), blank⟩

theorem printReport_completes {routes : Routes} {reader : Reader} {actions : Option (List (Option Action))}
    (sound : ∀ route ∈ routes, route.Sound)
    (mounts : ∀ engine ∈ reader.engines, ∃ route ∈ routes, route.type = .mounted ∧
      engine = ⟨route.endpoint, route.path⟩)
    (own : ∀ text ∈ ownTexts reader.failure routes, accepted text) :
    (renderer.printReport routes reader actions).fault = none :=
  print_fault_eq_none_iff.mpr fun drawing member =>
    reads.draws (reads.accepts_reportMarkups sound mounts own drawing member)

theorem printReport_breaks {routes : Routes} {reader : Reader} {actions : Option (List (Option Action))}
    (paired : ∀ found ∈ actions, routes.length ≤ found.length)
    (own : ∃ text ∈ ownTexts reader.failure routes, rejected text) :
    (renderer.printReport routes reader actions).fault ≠ none := by
  obtain ⟨text, standing, unreadable⟩ := own
  have written : text ≠ [] := by
    rintro rfl
    exact reads.not_rejected (reads.untagged rfl) unreadable
  obtain ⟨drawing, present, handed⟩ :=
    List.mem_flatMap.mp (mem_reportMarkups_of_mem_ownTexts paired standing written)
  obtain ⟨fault, failed⟩ := reads.fails handed unreadable
  intro printed
  obtain ⟨lines, drawn⟩ := print_fault_eq_none_iff.mp printed drawing present
  cases drawn.symm.trans failed

end Renderer.ReadsMarkup

theorem route_of_mem_engines {reader : Reader} {output : Text} {errors : Option Text} {engine : Engine}
    (member : engine ∈ (reader.read output errors).1.engines) :
    ∃ route ∈ (reader.read output errors).2, route.type = .mounted ∧
      engine = ⟨route.endpoint, route.path⟩ := by
  obtain ⟨reading, read, told⟩ := List.mem_filterMap.mp member
  obtain ⟨route, single, mounted, rfl⟩ := LineReading.engine?_eq_some_iff.mp told
  exact ⟨route, List.mem_flatMap.mpr ⟨reading, read, by simp [single]⟩, mounted, rfl⟩

/-- A report is printed to its end where its renderer accepts the texts that stand in its print as they are,
and not where it rejects one of them: whatever else is handed over does no harm. It accepts texts without a
tag, and rejects those that close a tag before they open one. -/
theorem report_printing_rests_on_ownTexts {Fault : Type} {renderer : Renderer Fault}
    {accepted rejected : Text → Prop} (reads : renderer.ReadsMarkup accepted rejected) (reader : Reader)
    (output : Text) (errors : Option Text) (actions : Option (List (Option Action)))
    (paired : ∀ found ∈ actions, (reader.read output errors).2.length ≤ found.length) :
    let (after, routes) := reader.read output errors
    let printed := renderer.printReport routes after actions
    let own := ownTexts after.failure routes
    ((∀ text ∈ own, accepted text) → printed.fault = none) ∧
      ((∃ text ∈ own, rejected text) → printed.fault ≠ none) ∧
      ((∀ text ∈ own, opensTag text = false) → printed.fault = none) ∧
      ((∃ text ∈ own, ClosesNothing text) → printed.fault ≠ none) := by
  have sound : ∀ route ∈ (reader.read output errors).2, route.Sound :=
    fun _ member => (sound_of_mem_read reader output errors member).1
  have mounts : ∀ engine ∈ (reader.read output errors).1.engines, ∃ route ∈ (reader.read output errors).2,
      route.type = .mounted ∧ engine = ⟨route.endpoint, route.path⟩ :=
    fun _ member => route_of_mem_engines member
  refine ⟨reads.printReport_completes sound mounts, reads.printReport_breaks paired, ?_, ?_⟩
  · intro untagged
    exact reads.printReport_completes sound mounts fun text member => reads.untagged (untagged text member)
  · rintro ⟨text, member, closing⟩
    exact reads.printReport_breaks paired ⟨text, member, reads.rejects_closing closing⟩

def bracketedReport : Text := "files GET /files/[id] files#show[all]\n".toList

def bracketedErrors : Text := "rake aborted!\nno [file] here\n".toList

def usersReport : Text := "users GET /users(.:format) users#index\n".toList

def bracketedTrace : Text := "rake aborted!\nNo routes in [/app/config]\nTasks: TOP => routes\n".toList

theorem closesNothing_trace : ∃ text ∈ ownTexts
    ((Reader.new none).read usersReport (some bracketedTrace)).1.failure
    ((Reader.new none).read usersReport (some bracketedTrace)).2, ClosesNothing text := by
  refine ⟨"No routes in [/app/config]".toList, by decide, "No routes in ".toList,
    "app/config".toList, [], ?_⟩
  decide

theorem report_printed_of_brackets :
    ((plainRenderer 80).printReport ((Reader.new none).read bracketedReport (some bracketedErrors)).2
        ((Reader.new none).read bracketedReport (some bracketedErrors)).1 (some [none])).fault = none ∧
      ((plainRenderer 80).printReport ((Reader.new none).read usersReport (some bracketedTrace)).2
        ((Reader.new none).read usersReport (some bracketedTrace)).1 none).fault ≠ none := by
  have single : ∀ found ∈ some [(none : Option Action)],
      ((Reader.new none).read bracketedReport (some bracketedErrors)).2.length ≤ found.length := by
    rintro _ ⟨⟩
    decide
  have unresolved : ∀ found ∈ (none : Option (List (Option Action))),
      ((Reader.new none).read usersReport (some bracketedTrace)).2.length ≤ found.length := by
    rintro _ ⟨⟩
  exact ⟨(report_printing_rests_on_ownTexts (readsMarkup_plainRenderer 80) (Reader.new none)
      bracketedReport (some bracketedErrors) (some [none]) single).1 (by decide +kernel),
    (report_printing_rests_on_ownTexts (readsMarkup_plainRenderer 80) (Reader.new none)
      usersReport (some bracketedTrace) none unresolved).2.2.2 closesNothing_trace⟩

theorem report_broken_off :
    ¬ ∃ (Fault : Type) (renderer : Renderer Fault) (accepted rejected : Text → Prop),
      renderer.ReadsMarkup accepted rejected ∧ ∀ (reader : Reader) (output : Text) (errors : Option Text),
        let (after, routes) := reader.read output errors
        (renderer.printReport routes after none).fault = none := by
  rintro ⟨Fault, renderer, accepted, rejected, reads, printed⟩
  obtain ⟨text, member, closing⟩ := closesNothing_trace
  have unresolved : ∀ found ∈ (none : Option (List (Option Action))),
      ((Reader.new none).read usersReport (some bracketedTrace)).2.length ≤ found.length := by
    rintro _ ⟨⟩
  exact reads.printReport_breaks unresolved ⟨text, member, reads.rejects_closing closing⟩
    (printed (Reader.new none) usersReport (some bracketedTrace))

end RouteReport.Console
