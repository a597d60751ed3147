import RouteReport.Proofs.Report.Locality
import RouteReport.Proofs.TextSearch

/-! What a reader makes of error output. Only lines that are no noise of the task runner have a say in
whether the task failed and how, wherever the noise stands. -/

namespace RouteReport

namespace Failure

/-- A line that the task runner writes about itself. -/
def isNoise (line : Text) : Bool := ['*', '*'].isPrefixOf line

/-- Error output without noise and without the white space around what is left. -/
def cleaned (text : Text) : Text := (withoutNoise text).trim

/-- Noise apart, there is nothing on these lines. -/
def Silent (lines : List Text) : Prop :=
  ∀ line ∈ lines, isNoise line = false → ∀ c ∈ line, Text.isBlank c = true

/-- Noise apart, one of these lines says that there is no such task. -/
def MissesTask (lines : List Text) : Prop :=
  ∃ line ∈ lines, isNoise line = false ∧ missingTaskMark <:+: line

/-- What stands in a text after its first abort. -/
def AfterAbort (text after : Text) : Prop :=
  ∃ before, text = before ++ (abortMark ++ after) ∧ ¬ abortMark <:+: before

/-- How the failure that a text tells of depends on its lines, and its trace on what is left of them. -/
structure Classified (text : Text) (failure : Failure) : Prop where
  none_iff : failure.code = .none ↔ Silent (text.splitOn '\n')
  none_trace : failure.code = .none → failure.trace = []
  missing_iff : failure.code = .taskNotFound ↔ MissesTask (text.splitOn '\n')
  missing_trace : failure.code = .taskNotFound → failure.trace = cleaned text
  general_iff : failure.code = .general ↔
    ¬ Silent (text.splitOn '\n') ∧ ¬ MissesTask (text.splitOn '\n')
  whole_trace : failure.code = .general →
    (∀ after, AfterAbort (cleaned text) after → ¬ tasksMark <:+: after) → failure.trace = cleaned text
  message_trace : failure.code = .general → ∀ message rest,
    AfterAbort (cleaned text) (message ++ (tasksMark ++ rest)) → ¬ tasksMark <:+: message →
      (∃ c ∈ message, Text.isBlank c = false) → failure.trace = message.trim

theorem withoutNoise_eq (text : Text) :
    withoutNoise text =
      Text.join ['\n'] ((text.splitOn '\n').map fun line => if isNoise line then [] else line) := rfl

theorem cleaned_eq_nil_iff {text : Text} : cleaned text = [] ↔ Silent (text.splitOn '\n') := by
  rw [cleaned, Text.trim_eq_nil_iff, withoutNoise_eq]
  constructor
  · intro blank line member spoken c present
    have kept : line ∈ (text.splitOn '\n').map fun line => if isNoise line then [] else line :=
      List.mem_map.mpr ⟨line, member, by simp [spoken]⟩
    exact blank c (Text.subset_join ['\n'] kept present)
  · intro silent c present
    rcases Text.mem_join present with lineFeed | ⟨_, kept, inLine⟩
    · rw [List.mem_singleton.mp lineFeed]
      rfl
    · obtain ⟨line, member, rfl⟩ := List.mem_map.mp kept
      cases noise : isNoise line with
      | true => simp [noise] at inLine
      | false => exact silent line member noise c (by simpa [noise] using inLine)

theorem holds_missingTaskMark_iff {text : Text} :
    (cleaned text).holds missingTaskMark = true ↔ MissesTask (text.splitOn '\n') := by
  have nonempty : missingTaskMark ≠ [] := by decide
  rw [Text.holds_iff, cleaned, withoutNoise_eq,
    Text.infix_trim_iff nonempty rfl rfl,
    Text.infix_join_iff nonempty (by decide)]
  constructor
  · rintro ⟨_, kept, inLine⟩
    obtain ⟨line, member, rfl⟩ := List.mem_map.mp kept
    cases noise : isNoise line with
    | true => exact absurd (by simpa [noise] using inLine) nonempty
    | false => exact ⟨line, member, noise, by simpa [noise] using inLine⟩
  · rintro ⟨line, member, spoken, inLine⟩
    exact ⟨line, List.mem_map.mpr ⟨line, member, by simp [spoken]⟩, inLine⟩

theorem abortMark_ends : abortMark = "rake aborted".toList ++ ['!'] ∧ '!' ∉ "rake aborted".toList := by
  decide

theorem tasksMark_ends : tasksMark = "Tasks".toList ++ [':'] ∧ ':' ∉ "Tasks".toList := by
  decide

theorem afterAbort_iff {text after : Text} :
    AfterAbort text after ↔ ∃ before, text.cut? abortMark = some (before, after) := by
  constructor
  · rintro ⟨before, rfl, free⟩
    exact ⟨before, Text.cut?_of_free abortMark_ends.1 abortMark_ends.2 after free⟩
  · rintro ⟨before, found⟩
    refine ⟨before, ?_, Text.free_of_cut? (by decide) found⟩
    rw [Text.append_of_cut? found, List.append_assoc]

theorem abortMessage?_eq_none {text : Text}
    (noTasks : ∀ after, AfterAbort text after → ¬ tasksMark <:+: after) : abortMessage? text = none := by
  cases found : text.cut? abortMark with
  | none => simp [abortMessage?, found]
  | some parts =>
    obtain ⟨before, after⟩ := parts
    have absent := noTasks after (afterAbort_iff.mpr ⟨before, found⟩)
    cases body : after.dropWhile Text.isBlank with
    | nil => simp [abortMessage?, found, Text.run, body]
    | cons c rest =>
      have inAfter : c :: rest <:+ after := body ▸ List.dropWhile_suffix _
      have later : Text.cut? rest tasksMark = none :=
        Text.cut?_eq_none_iff.mpr fun inside =>
          absent (inside.trans ((List.suffix_cons c rest).trans inAfter).isInfix)
      have notHere : ¬ tasksMark <+: c :: rest :=
        fun starts => absent (starts.isInfix.trans inAfter.isInfix)
      simp [abortMessage?, found, Text.run, body, later, notHere]

theorem abortMessage?_eq_some {text message rest : Text}
    (aborted : AfterAbort text (message ++ (tasksMark ++ rest))) (free : ¬ tasksMark <:+: message)
    (speaks : ∃ c ∈ message, Text.isBlank c = false) : abortMessage? text = some message.trim := by
  obtain ⟨before, found⟩ := afterAbort_iff.mp aborted
  obtain ⟨c, tail, body⟩ : ∃ c tail, Text.trimLeft message = c :: tail := by
    apply List.exists_cons_of_ne_nil
    intro empty
    obtain ⟨c, present, solid⟩ := speaks
    rw [List.dropWhile_eq_nil_iff.mp empty c present] at solid
    cases solid
  have parts : message.takeWhile Text.isBlank ++ c :: tail = message := by
    rw [← body, Text.takeWhile_append_trimLeft]
  have solid : Text.isBlank c = false := by
    have stop := List.head?_dropWhile_not Text.isBlank message
    have first : (message.dropWhile Text.isBlank).head? = some c := by
      rw [← Text.trimLeft, body, List.head?_cons]
    simpa [first] using stop
  have cut : Text.run (message ++ (tasksMark ++ rest)) Text.isBlank =
      (message.takeWhile Text.isBlank, c :: (tail ++ (tasksMark ++ rest))) := by
    conv_lhs => rw [← parts, List.append_assoc, List.cons_append]
    exact Text.run_append _ _ _ (fun _ present => List.mem_takeWhile_imp present)
      fun x head => Option.some.inj head ▸ solid
  have freeTail : ¬ tasksMark <:+: tail := by
    intro inside
    apply free
    rw [← parts]
    exact inside.trans ((List.suffix_cons c tail).trans (List.suffix_append _ _)).isInfix
  have trimmed : Text.trim (c :: tail) = message.trim := by rw [← body, Text.trim_trimLeft]
  simp [abortMessage?, found, cut, Text.cut?_of_free tasksMark_ends.1 tasksMark_ends.2 rest freeTail,
    trimmed]

theorem ofErrorOutput_some (text : Text) :
    ofErrorOutput (some text) =
      if (cleaned text).isEmpty then absent
      else if (cleaned text).holds missingTaskMark then ⟨.taskNotFound, cleaned text⟩
      else ⟨.general, (abortMessage? (cleaned text)).getD (cleaned text)⟩ := rfl

theorem not_silent_of_missesTask {lines : List Text} (misses : MissesTask lines) : ¬ Silent lines := by
  obtain ⟨line, member, spoken, inLine⟩ := misses
  intro silent
  have inMark : 'D' ∈ missingTaskMark := by decide
  exact absurd (silent line member spoken 'D' (inLine.subset inMark)) (by decide)

theorem classified (text : Text) : Classified text (ofErrorOutput (some text)) := by
  have missing : (cleaned text).holds missingTaskMark = true ↔ MissesTask (text.splitOn '\n') :=
    holds_missingTaskMark_iff
  rw [ofErrorOutput_some]
  by_cases silent : Silent (text.splitOn '\n')
  · have quiet : ¬ MissesTask (text.splitOn '\n') :=
      fun misses => not_silent_of_missesTask misses silent
    rw [if_pos (List.isEmpty_iff.mpr (cleaned_eq_nil_iff.mpr silent))]
    constructor <;> simp [absent, silent, quiet]
  · have nonempty : ¬ (cleaned text).isEmpty = true := by
      rw [List.isEmpty_iff, cleaned_eq_nil_iff]
      exact silent
    rw [if_neg nonempty]
    by_cases misses : MissesTask (text.splitOn '\n')
    · rw [if_pos (missing.mpr misses)]
      constructor <;> simp [silent, misses]
    · rw [if_neg (fun held => misses (missing.mp held))]
      exact {
        none_iff := by simp [silent]
        none_trace := by simp
        missing_iff := by simp [misses]
        missing_trace := by simp
        general_iff := by simp [silent, misses]
        whole_trace := by
          intro _ noTasks
          rw [abortMessage?_eq_none noTasks, Option.getD_none]
        message_trace := by
          intro _ message rest aborted free speaks
          rw [abortMessage?_eq_some aborted free speaks, Option.getD_some] }

theorem Classified.code_congr {first second : Text} {failure other : Failure}
    (one : Classified first failure) (two : Classified second other)
    (silent : Silent (first.splitOn '\n') ↔ Silent (second.splitOn '\n'))
    (misses : MissesTask (first.splitOn '\n') ↔ MissesTask (second.splitOn '\n')) :
    failure.code = other.code := by
  cases code : failure.code with
  | none => exact (two.none_iff.mpr (silent.mp (one.none_iff.mp code))).symm
  | taskNotFound => exact (two.missing_iff.mpr (misses.mp (one.missing_iff.mp code))).symm
  | general =>
    obtain ⟨speaks, known⟩ := one.general_iff.mp code
    exact (two.general_iff.mpr ⟨fun quiet => speaks (silent.mpr quiet),
      fun missing => known (misses.mpr missing)⟩).symm

section Lines

variable {lines : List Text} (clean : ∀ line ∈ lines, '\n' ∉ line)

include clean

theorem silent_join_iff :
    Silent ((Text.join ['\n'] lines).splitOn '\n') ↔ Silent (lines.filter (!isNoise ·)) := by
  cases lines with
  | nil => simp [Silent, Text.join, Text.splitOn]
  | cons line rest =>
    rw [Text.splitOn_join '\n' (line :: rest) (List.cons_ne_nil _ _) clean]
    simp [Silent]

theorem missesTask_join_iff :
    MissesTask ((Text.join ['\n'] lines).splitOn '\n') ↔ MissesTask (lines.filter (!isNoise ·)) := by
  cases lines with
  | nil =>
    have nonempty : missingTaskMark ≠ [] := by decide
    simp [MissesTask, Text.join, Text.splitOn, nonempty]
  | cons line rest =>
    rw [Text.splitOn_join '\n' (line :: rest) (List.cons_ne_nil _ _) clean]
    simp [MissesTask, and_assoc, and_left_comm]

end Lines

end Failure

namespace Reader

open Failure (Classified isNoise)

/-- Whatever a reader was before, its failure after some error output is the one that the lines without
noise tell of, and there is none without error output. So the code is the same for all outputs whose
lines differ in noise alone, wherever it stands. -/
theorem errors_classified (reader : Reader) :
    (reader.readErrors none).failure = .absent ∧
      (∀ text, Classified text (reader.readErrors (some text)).failure) ∧
      ∀ lines others : List Text, (∀ line ∈ lines ++ others, '\n' ∉ line) →
        lines.filter (!isNoise ·) = others.filter (!isNoise ·) →
        (reader.readErrors (some (Text.join ['\n'] lines))).failure.code =
          (reader.readErrors (some (Text.join ['\n'] others))).failure.code := by
  refine ⟨rfl, Failure.classified, ?_⟩
  intro lines others clean same
  obtain ⟨first, second⟩ := List.forall_mem_append.mp clean
  apply (Failure.classified _).code_congr (Failure.classified _)
  · rw [Failure.silent_join_iff first, Failure.silent_join_iff second, same]
  · rw [Failure.missesTask_join_iff first, Failure.missesTask_join_iff second, same]

def abortedLines : List Text :=
  ["** Invoke routes (first_time)", "rake aborted!", "** Don't know how to go on",
    "uninitialized constant Blog", "Tasks: TOP => routes"].map String.toList

def abortedMessage : Text := "\n\nuninitialized constant Blog\n".toList

theorem errors_classified_of_aborted :
    ((new none).readErrors (some (Text.join ['\n'] abortedLines))).failure =
        ⟨.general, "uninitialized constant Blog".toList⟩ ∧
      ((new none).readErrors (some (Text.join ['\n'] (abortedLines.filter (!isNoise ·))))).failure.code =
        .general := by
  obtain ⟨_, classified, sameCode⟩ := errors_classified (new none)
  have general : ((new none).readErrors (some (Text.join ['\n'] abortedLines))).failure.code =
      .general := by
    decide
  have aborted : Failure.AfterAbort (Failure.cleaned (Text.join ['\n'] abortedLines))
      (abortedMessage ++ (Failure.tasksMark ++ " TOP => routes".toList)) :=
    ⟨[], by decide, by decide⟩
  have trace := (classified _).message_trace general _ _ aborted (by decide)
    ⟨'u', by decide, by decide⟩
  have message : abortedMessage.trim = "uninitialized constant Blog".toList := by decide
  constructor
  · rw [← message, ← trace, ← general]
  · rw [← general]
    exact (sameCode _ _ (by decide) (by decide)).symm

end Reader

end RouteReport
