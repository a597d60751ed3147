import Mathlib.Data.List.Induction
import RouteReport.Proofs.Index.Table

/-! The statements of the bodies that a source opens, in the order of the text and with nothing but
their place: what a source says is read off them without any running state. -/

namespace RouteReport

open Ruby (ContainerKind Node)

namespace Trace

theorem followedBy_complete {first second : Trace} :
    (first.followedBy second).fault = .none ↔ first.fault = .none ∧ second.fault = .none := by
  cases fault : first.fault <;> simp [followedBy, fault]

theorem events_followedBy {first second : Trace} (complete : first.fault = .none) :
    (first.followedBy second).events = first.events ++ second.events := by
  simp [followedBy, complete]

theorem join_cons (first : Trace) (rest : List Trace) :
    join (first :: rest) = first.followedBy (join rest) := rfl

theorem join_complete {traces : List Trace} (complete : (join traces).fault = .none) :
    (∀ trace ∈ traces, trace.fault = .none) ∧
      (join traces).events = traces.flatMap (·.events) := by
  induction traces with
  | nil => exact ⟨by simp, rfl⟩
  | cons first rest ih =>
    rw [join_cons, followedBy_complete] at complete
    rcases ih complete.2 with ⟨others, events⟩
    constructor
    · intro trace member
      rcases List.mem_cons.mp member with rfl | later
      · exact complete.1
      · exact others trace later
    · rw [join_cons, events_followedBy complete.1, events, List.flatMap_cons]

end Trace

/-- The text of octets, or none where they are not text. -/
def decoded (octets : Octets) : Text :=
  match Utf8.decode octets with
  | .ok text => text
  | .error _ => []

theorem Trace.ofDecoded_complete {octets : Octets} {next : Text → Trace}
    (complete : (Trace.ofDecoded octets next).fault = .none) :
    Trace.ofDecoded octets next = next (decoded octets) := by
  unfold Trace.ofDecoded at complete ⊢
  unfold decoded
  cases text : Utf8.decode octets with
  | ok text => rfl
  | error fault => simp [text] at complete

/-- A statement directly in a body, with those before it in the same body. -/
structure DirectStatement where
  body : Body
  before : List Node
  statement : Node

mutual

/-- The statements in all bodies that a definition opens, a body before the rest of the one around it. -/
def Node.directStatements (file namespaceName : Text) : Node → List DirectStatement
  | .container _ kind name _ statements =>
    bodyStatements ⟨kind, qualifiedNameIn namespaceName (decoded name).trim, file⟩ [] statements
  | _ => []

def bodyStatements (body : Body) (before : List Node) : List Node → List DirectStatement
  | [] => []
  | statement :: rest =>
    ⟨body, before, statement⟩ ::
      (Node.directStatements body.file body.name statement ++
        bodyStatements body (before ++ [statement]) rest)

end

/-- A source as its statements outside all definitions. -/
structure ParsedSource where
  file : Text
  statements : List Node

def ParsedSource.directStatements (source : ParsedSource) : List DirectStatement :=
  source.statements.flatMap (Node.directStatements source.file [])

/-- The events of a source. -/
def ParsedSource.events (source : ParsedSource) : List Event :=
  (traceOf source.file source.statements).events

namespace Index

/-- The indexes that sources build one after the other, each of them read to its end. -/
inductive Built : List ParsedSource → Index → Prop where
  | empty : Built [] .empty
  | add {sources : List ParsedSource} {index later : Index} (source : ParsedSource)
      (earlier : Built sources index)
      (complete : index.addStatements source.file source.statements = (later, none)) :
      Built (sources ++ [source]) later

theorem Built.complete {sources : List ParsedSource} {index : Index} (built : Built sources index) :
    ∀ source ∈ sources, (traceOf source.file source.statements).fault = none := by
  induction built with
  | empty => simp
  | add source earlier complete ih =>
    intro other member
    rcases List.mem_append.mp member with before | last
    · exact ih other before
    · rw [List.mem_singleton.mp last]
      exact congrArg Prod.snd complete

theorem Built.of_complete {sources : List ParsedSource} {index : Index}
    (earlier : Built sources index) (source : ParsedSource)
    (complete : (traceOf source.file source.statements).fault = none) :
    Built (sources ++ [source]) (index.addStatements source.file source.statements).1 :=
  .add source earlier (Prod.ext rfl complete)

/-- The index of some sources, however far each of them can be read. -/
def ofSources (sources : List ParsedSource) : Index :=
  sources.foldl (fun index source => (index.addStatements source.file source.statements).1) .empty

theorem built_ofSources {sources : List ParsedSource}
    (complete : ∀ source ∈ sources, (traceOf source.file source.statements).fault = none) :
    Built sources (ofSources sources) := by
  induction sources using List.reverseRecOn with
  | nil => exact .empty
  | append_singleton front last ih =>
    have earlier : Built front (ofSources front) :=
      ih fun source member => complete source (List.mem_append_left _ member)
    rw [ofSources, List.foldl_append]
    exact earlier.of_complete last (complete last (List.mem_append_right _ List.mem_cons_self))

theorem ofSources_eq_foldl (sources : List ParsedSource) :
    ofSources sources = (sources.flatMap (·.events)).foldl apply Index.empty := by
  induction sources using List.reverseRecOn with
  | nil => rfl
  | append_singleton front last ih =>
    rw [List.flatMap_append, List.foldl_append, ← ih, List.flatMap_singleton, ofSources,
      List.foldl_append]
    rfl

theorem distinct_ofSources (sources : List ParsedSource) (kind : ContainerKind) :
    ((ofSources sources).table kind).names.Nodup := by
  rw [ofSources_eq_foldl]
  exact distinct_foldl _ kind

theorem Built.eq_foldl {sources : List ParsedSource} {index : Index} (built : Built sources index) :
    index = (sources.flatMap (·.events)).foldl apply Index.empty := by
  induction built with
  | empty => rfl
  | @add sources index later source earlier complete ih =>
    have last : later = index.addTrace (traceOf source.file source.statements) :=
      (congrArg Prod.fst complete).symm
    rw [last, addTrace, List.flatMap_append, List.foldl_append, ← ih]
    simp [ParsedSource.events]

theorem Built.distinct {sources : List ParsedSource} {index : Index} (built : Built sources index)
    (kind : ContainerKind) : (index.table kind).names.Nodup := by
  rw [built.eq_foldl]
  exact distinct_foldl _ kind

theorem Built.container?_of_mem {sources : List ParsedSource} {index : Index}
    (built : Built sources index) {kind : ContainerKind} {container : Container}
    (member : container ∈ index.table kind) :
    index.container? kind container.qualifiedName = some container :=
  ContainerTable.get?_of_mem (built.distinct kind) member

end Index

end RouteReport
