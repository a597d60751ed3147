import Mathlib.Data.List.Basic
import RouteReport.Report.Reader

/-! The written form of a report: one entry on each line, its columns apart by any runs of spaces. -/

namespace RouteReport

structure IsField (text : Text) : Prop where
  nonempty : text ≠ []
  oneLine : '\n' ∉ text
  trimmed : text.trim = text

/-- Requirements after an action: the spaces before them, and what stands between the braces. -/
structure Clause where
  gap : Nat
  body : Text
  nonempty : body ≠ []
  oneLine : '\n' ∉ body

def Clause.text (clause : Clause) : Text :=
  Text.spaces clause.gap ++ '{' :: clause.body ++ ['}']

inductive Target where
  | handler (controller action : Text) (clause : Option Clause)
  | mount (constant : Text)
  | redirect (destination : Text)

namespace Target

def Valid : Target → Prop
  | .handler controller action _ =>
    IsField controller ∧ '#' ∉ controller ∧ ¬ redirectMark <+: controller ∧
      IsField action ∧ '{' ∉ action
  | .mount constant =>
    isConstantPath constant = true ∧ ¬ scopeMark <+: constant ∧ 2 ≤ constant.length ∧
      ∀ c ∈ constant, c.toNat < 128
  | .redirect destination => '\n' ∉ destination

def text : Target → Text
  | .handler controller action clause =>
    controller ++ '#' :: action ++ (clause.map Clause.text).getD []
  | .mount constant => constant
  | .redirect destination => redirectMark ++ destination

def endpoint : Target → Endpoint
  | .handler controller action _ => ⟨controller, action⟩
  | .mount constant => ⟨constant, []⟩
  | .redirect _ => ⟨[], []⟩

def type : Target → RouteType
  | .handler .. => .normal
  | .mount _ => .mounted
  | .redirect _ => .redirect

end Target

structure Entry where
  name : Text
  verbs : List Verb
  path : Text
  target : Target
  name_chars : ∀ c ∈ name, Columns.isNameChar c = true
  verbs_named : .any ∉ verbs
  path_nonempty : path ≠ []
  path_solid : ∀ c ∈ path, Text.isBlank c = false
  /-- No character of a name or of verbs begins the path. -/
  path_start : ∀ c, path.head? = some c →
    (Text.isAsciiLetter c || Text.isAsciiDigit c || c == '_' || c == '|') = false
  target_valid : target.Valid

namespace Entry

def verbColumn (entry : Entry) : Text := Text.join ['|'] (entry.verbs.map Verb.name)

/-- A route for each verb; without verbs, one that answers to any. -/
def routes (application : Option Text) (entry : Entry) : Routes :=
  (if entry.verbs = [] then [.any] else entry.verbs).map fun verb =>
    ⟨application, verb, entry.path, entry.target.endpoint.controller, entry.target.endpoint.action,
      entry.name, entry.target.type⟩

/-- A mounted application is an engine unless the line joins verbs. -/
def engine? (entry : Entry) : Option Engine :=
  match entry.target with
  | .mount constant => if entry.verbs.length ≤ 1 then some ⟨constant, entry.path⟩ else none
  | _ => none

end Entry

/-- An entry with the numbers of spaces before and between its columns. -/
structure Row where
  entry : Entry
  indent : Nat
  afterName : Nat
  afterVerbs : Nat
  afterPath : Nat
  name_apart : entry.name ≠ [] → entry.verbs ≠ [] → 0 < afterName
  verbs_apart : entry.verbs ≠ [] → 0 < afterVerbs
  name_path_apart : entry.name ≠ [] → entry.verbs = [] → 0 < afterName + afterVerbs
  path_indented : entry.name = [] → entry.verbs = [] → 0 < indent + afterName + afterVerbs
  path_apart : 0 < afterPath

/-- The line of a row up to its target. -/
def Row.lead (row : Row) : Text :=
  Text.spaces row.indent ++ (row.entry.name ++ (Text.spaces row.afterName ++ (row.entry.verbColumn ++
    (Text.spaces row.afterVerbs ++ (row.entry.path ++ Text.spaces row.afterPath)))))

def Row.line (row : Row) : Text := row.lead ++ row.entry.target.text

example : ∃ row : Row, row.line = " /users users#index \x7b#\x7ba\x7d\x7d".toList :=
  ⟨⟨⟨[], [], "/users".toList,
      .handler "users".toList "index".toList (some ⟨1, "#\x7ba\x7d".toList, by decide, by decide⟩),
      by simp, by decide, by decide, List.forall_iff_forall_mem.mp (by decide),
      by rintro c ⟨⟩; decide,
      ⟨⟨by decide, by decide, by decide⟩, by decide, by decide, ⟨by decide, by decide, by decide⟩,
        by decide⟩⟩,
    1, 0, 0, 1, by decide, by decide, by decide, by decide, by decide⟩, by decide⟩

/-- One row on each line; the last line may go without a line feed. -/
def render : List Row → Bool → Text
  | [], _ => []
  | [row], false => row.line
  | row :: rows, ended => row.line ++ '\n' :: render rows ended

end RouteReport
