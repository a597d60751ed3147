import RouteReport.Proofs.Report.FailedStream

namespace RouteReport.Reader

/-- What can be asked of a reader. A stream gives its lines and then ends, in one way or another. -/
inductive Call where
  | report (output : Text) (errors : Option Text)
  | stream (lines : List Text) (streamEnd : StreamEnd)
  | data (line : Text)
  | announcement (line : Text)
  | errors (output : Option Text)
  | clear

/-- What a call comes back with. -/
inductive Answer where
  | routes (routes : Option Routes)
  | announces (announced : Bool)
  | done
  | fault

/-- The loop over the lines, from a reader without engines. -/
def gather (reader : Reader) (lines : List Text) : Reader × Routes := lines.foldl take (reader.fresh, [])

/-- The answer to a call, and what the reader is after it. -/
def perform (reader : Reader) : Call → Answer × Reader
  | .report output errors =>
    let (after, routes) := (reader.readErrors errors).gather (Text.lines output)
    (.routes (some routes), after)
  | .stream lines streamEnd =>
    let (after, routes) := reader.gather lines
    match streamEnd with
    | .complete => (.routes (some routes), after)
    | .unreadable => (.routes none, after)
    | .broken => (.fault, after)
  | .data line => (.routes (LineReading.ofData reader.application line).routes?, reader)
  | .announcement line => (.announces (LineReading.ofAnnouncement? line).isSome, reader)
  | .errors output => (.done, reader.readErrors output)
  | .clear => (.done, reader.clearFailure)

def after (reader : Reader) (call : Call) : Reader := (reader.perform call).2

/-- A reader that has answered some calls. -/
def used (application : Option Text) (history : List Call) : Reader := history.foldl after (new application)

theorem used_concat (application : Option Text) (history : List Call) (call : Call) :
    used application (history ++ [call]) = (used application history).after call := by
  rw [used, List.foldl_append]
  rfl

theorem gather_eq (reader : Reader) (lines : List Text) :
    reader.gather lines = (reader.readLines lines, lines.flatMap (routesAt reader.application)) :=
  reader.foldl_take lines

theorem perform_report (reader : Reader) (output : Text) (errors : Option Text) :
    reader.perform (.report output errors) =
      (.routes (some (reader.read output errors).2), (reader.read output errors).1) := by
  rw [perform, gather_eq, (reader.read_eq output errors).1]
  rfl

theorem perform_stream (reader : Reader) (lines : List Text) (streamEnd : StreamEnd) :
    reader.perform (.stream lines streamEnd) =
      (if streamEnd = .broken then .fault else .routes (reader.routesOf? lines streamEnd),
        reader.readLines lines) := by
  rw [perform, gather_eq]
  cases streamEnd with
  | complete =>
    have gathered : (readingsOf reader.application lines).flatMap (fun reading => reading.routes?.getD []) =
        lines.flatMap (routesAt reader.application) := List.flatMap_map ..
    simp [routesOf?, gathered]
  | unreadable => rfl
  | broken => rfl

theorem gather_frame (reader : Reader) (lines : List Text) :
    (reader.gather lines).1.application = reader.application ∧
      (reader.gather lines).1.failure = reader.failure := by
  induction lines using List.reverseRecOn with
  | nil => exact ⟨rfl, rfl⟩
  | append_singleton front line ih =>
    rw [gather, List.foldl_append, List.foldl_cons, List.foldl_nil]
    exact ih

theorem application_after (reader : Reader) (call : Call) :
    (reader.after call).application = reader.application := by
  cases call with
  | report output errors => exact (gather_frame (reader.readErrors errors) (Text.lines output)).1
  | stream lines streamEnd =>
    cases streamEnd <;> exact (gather_frame reader lines).1
  | data line => rfl
  | announcement line => rfl
  | errors output => rfl
  | clear => rfl

theorem application_used (application : Option Text) (history : List Call) :
    (used application history).application = application := by
  induction history using List.reverseRecOn with
  | nil => rfl
  | append_singleton front call ih =>
    rw [used_concat, application_after, ih]

theorem read_congr {first second : Reader} (same : first.application = second.application)
    (output : Text) (errors : Option Text) : first.read output errors = second.read output errors := by
  obtain ⟨application, firstEngines, firstFailure⟩ := first
  obtain ⟨_, secondEngines, secondFailure⟩ := second
  cases same
  rfl

theorem failure_after_stream (reader : Reader) (lines : List Text) (streamEnd : StreamEnd) :
    (reader.after (.stream lines streamEnd)).failure = reader.failure := by
  cases streamEnd <;> exact (gather_frame reader lines).2

/-- After any calls, however its streams ended, a reader gives the routes of a report and is left with the
engines and the failure as a new reader for the same application. On the way, lines change nothing in a
reader, a stream leaves its failure as it was, and error output and a clearing leave its engines. -/
theorem read_after_history (application : Option Text) (history : List Call) (output : Text)
    (errors : Option Text) :
    (used application history).read output errors = (new application).read output errors ∧
      (used application history).perform (.report output errors) =
        (new application).perform (.report output errors) ∧
      (∀ line, used application (history ++ [.data line]) = used application history ∧
        used application (history ++ [.announcement line]) = used application history) ∧
      (∀ lines streamEnd, (used application (history ++ [.stream lines streamEnd])).failure =
        (used application history).failure) ∧
      (∀ text, (used application (history ++ [.errors text])).engines =
        (used application history).engines) ∧
      (used application (history ++ [.clear])).engines = (used application history).engines := by
  have same : (used application history).read output errors = (new application).read output errors :=
    read_congr (application_used application history) output errors
  simp only [used_concat]
  refine ⟨same, by rw [perform_report, perform_report, same], fun _ => ⟨rfl, rfl⟩, ?_, fun _ => rfl, rfl⟩
  intro lines streamEnd
  exact failure_after_stream _ lines streamEnd

end RouteReport.Reader
