import RouteReport.Proofs.Index.Statements

namespace RouteReport

open Ruby (ContainerKind Node)

inductive Saying where
  | definition (method : Method)
  | symbol (name : Text) (visibility : Visibility)
  deriving DecidableEq, Repr

abbrev TaggedSaying := ContainerKind × Text × Saying

def Event.tagged? (event : Event) : Option TaggedSaying :=
  match event.fact with
  | .defines method => some (event.kind, event.name, .definition method)
  | .declares name visibility => some (event.kind, event.name, .symbol name visibility)
  | _ => none

/-- The visibility that a keyword gives; other names give none. -/
def keyword? (name : Octets) : Option Visibility := Visibility.ofName? (decoded name)

/-- A keyword that stands alone begins a section. -/
def bareKeyword? : Node → Option Visibility
  | .call _ name [] => keyword? name
  | _ => none

/-- The section after some statements of a body: that of the last bare keyword, else public. -/
def sectionBefore (before : List Node) : Visibility :=
  (before.reverse.findSome? bareKeyword?).getD .publicMethod

/-- A definition as it is written in a body. -/
def Body.written (body : Body) (visibility : Visibility) (head : Ruby.MethodHead) : Method :=
  ⟨decoded head.name, body.kind, body.name, visibility, head.requiredParams, body.file, head.line⟩

def symbolSaying? (visibility : Visibility) (octets : Octets) : Option Saying :=
  match Ruby.symbolName? (decoded octets) with
  | some name => if name = [] then none else some (.symbol name visibility)
  | none => none

/-- What an argument of a keyword says: a definition after it, or a symbol. -/
def Body.argument (body : Body) (visibility : Visibility) : Node → Option Saying
  | .method _ head => some (.definition (body.written visibility head))
  | arg => symbolSaying? visibility arg.text

def DirectStatement.sayings (direct : DirectStatement) : List Saying :=
  match direct.statement with
  | .method _ head => [.definition (direct.body.written (sectionBefore direct.before) head)]
  | .call _ name args => match keyword? name with
    | some visibility => args.filterMap (direct.body.argument visibility)
    | none => []
  | _ => []

def DirectStatement.tagged (direct : DirectStatement) : List TaggedSaying :=
  direct.sayings.map fun saying => (direct.body.kind, direct.body.name, saying)

theorem sectionAfter_eq (current : Visibility) (statement : Node) :
    sectionAfter current statement = (bareKeyword? statement).getD current := by
  cases statement with
  | call text name args =>
    cases args with
    | nil =>
      simp only [sectionAfter, bareKeyword?, keyword?, decoded]
      cases Utf8.decode name with
      | ok name => rfl
      | error fault => rfl
    | cons arg args => rfl
  | _ => rfl

theorem sectionBefore_append (before : List Node) (statement : Node) :
    sectionBefore (before ++ [statement]) = sectionAfter (sectionBefore before) statement := by
  rw [sectionAfter_eq, sectionBefore, List.reverse_append, List.reverse_singleton,
    List.singleton_append, List.findSome?_cons]
  cases bareKeyword? statement <;> rfl

/-- Neither a definition of a method nor a call of a visibility keyword: a nested class, another call,
a call with a receiver. -/
def IsNeutral : Node → Prop
  | .method _ _ => False
  | .call _ name _ => keyword? name = none
  | _ => True

theorem bareKeyword?_of_neutral {statement : Node} (neutral : IsNeutral statement) :
    bareKeyword? statement = none := by
  cases statement with
  | call text name args =>
    cases args with
    | nil => exact neutral
    | cons arg args => rfl
  | _ => rfl

theorem silent_of_neutral {statement : Node} (neutral : IsNeutral statement) (body : Body)
    (before after : List Node) :
    DirectStatement.sayings ⟨body, before, statement⟩ = [] ∧
      sectionBefore (before ++ statement :: after) = sectionBefore (before ++ after) := by
  constructor
  · cases statement with
    | method text head => cases neutral
    | call text name args =>
      have noKeyword : keyword? name = none := neutral
      simp [DirectStatement.sayings, noKeyword]
    | _ => rfl
  · simp [sectionBefore, List.findSome?_append, bareKeyword?_of_neutral neutral]

namespace Body

theorem tagged_event (body : Body) (fact : Fact) :
    (body.event fact).events.filterMap Event.tagged? =
      (Event.tagged? ⟨body.kind, body.name, fact⟩).toList := by
  simp only [event, Trace.one, List.filterMap_cons, List.filterMap_nil]
  cases Event.tagged? ⟨body.kind, body.name, fact⟩ <;> rfl

theorem tagged_definition (body : Body) (visibility : Visibility) (head : Ruby.MethodHead)
    (complete : (body.definition visibility head).fault = none) :
    (body.definition visibility head).events.filterMap Event.tagged? =
      [(body.kind, body.name, .definition (body.written visibility head))] := by
  rw [definition, Trace.ofDecoded_complete complete]
  rfl

theorem tagged_declaration (body : Body) (visibility : Visibility) (arg : Node)
    (complete : (body.declaration visibility arg).fault = none) :
    (body.declaration visibility arg).events.filterMap Event.tagged? =
      ((body.argument visibility arg).map fun saying => (body.kind, body.name, saying)).toList := by
  have symbol (octets : Octets) : ((match Ruby.symbolName? (decoded octets) with
      | some name => if name.isEmpty then Trace.none else body.event (.declares name visibility)
      | none => Trace.none).events.filterMap Event.tagged?) =
        ((symbolSaying? visibility octets).map fun saying => (body.kind, body.name, saying)).toList := by
    cases found : Ruby.symbolName? (decoded octets) with
    | none => simp [symbolSaying?, found, Trace.none]
    | some name =>
      by_cases empty : name = []
      · simp [symbolSaying?, found, empty, Trace.none]
      · simp [symbolSaying?, found, empty, tagged_event, Event.tagged?]
  cases arg with
  | method text head => exact tagged_definition body visibility head complete
  | _ =>
    simp only [declaration] at complete ⊢
    rw [Trace.ofDecoded_complete complete]
    exact symbol _

theorem tagged_inclusion (body : Body) (args : List Node) :
    (body.inclusion args).events.filterMap Event.tagged? = [] := by
  unfold inclusion
  split
  · rw [tagged_event]
    rfl
  · rfl

theorem tagged_arguments (body : Body) (visibility : Visibility) (args : List Node)
    (complete : (Trace.join (args.map (body.declaration visibility))).fault = none) :
    (Trace.join (args.map (body.declaration visibility))).events.filterMap Event.tagged? =
      (args.filterMap (body.argument visibility)).map
        fun saying => (body.kind, body.name, saying) := by
  rcases Trace.join_complete complete with ⟨each, events⟩
  rw [events, List.filterMap_flatMap, List.flatMap_map, List.map_filterMap,
    List.filterMap_eq_flatMap_toList]
  apply List.flatMap_congr
  intro arg member
  exact tagged_declaration body visibility arg (each _ (List.mem_map_of_mem member))

theorem tagged_call (body : Body) (text name : Octets) (args before : List Node)
    (complete : (body.call name args).fault = none) :
    (body.call name args).events.filterMap Event.tagged? =
      DirectStatement.tagged ⟨body, before, .call text name args⟩ := by
  unfold call at complete ⊢
  have read := Trace.ofDecoded_complete complete
  rw [read] at complete ⊢
  simp only [DirectStatement.tagged, DirectStatement.sayings, keyword?]
  by_cases isInclude : decoded name = "include".toList
  · rw [isInclude]
    exact tagged_inclusion body args
  · simp only [beq_iff_eq, isInclude, ↓reduceIte] at complete ⊢
    cases keyword : Visibility.ofName? (decoded name) with
    | none => rfl
    | some visibility =>
      rw [keyword] at complete
      exact tagged_arguments body visibility args complete

theorem tagged_inheritance (body : Body) (superclass : Option Octets) :
    (body.inheritance superclass).events.filterMap Event.tagged? = [] := by
  unfold inheritance
  split
  · unfold Trace.ofDecoded
    split
    · dsimp only
      split
      · rfl
      · rw [tagged_event]
        rfl
    · rfl
  · rfl

theorem tagged_location (body : Body) : body.location.events.filterMap Event.tagged? = [] := by
  unfold location
  split <;> rfl

end Body

def Body.statementTrace (body : Body) (visibility : Visibility) : Node → Trace
  | .method _ head => body.definition visibility head
  | .call _ name args => body.call name args
  | statement => Node.trace body.file body.name statement

theorem bodyTrace_cons (body : Body) (visibility : Visibility) (statement : Node)
    (rest : List Node) :
    bodyTrace body visibility (statement :: rest) =
      (body.statementTrace visibility statement).followedBy
        (bodyTrace body (sectionAfter visibility statement) rest) := by
  cases statement <;> simp only [bodyTrace, Body.statementTrace]

mutual

theorem tagged_trace (file namespaceName : Text) (node : Node)
    (complete : (Node.trace file namespaceName node).fault = none) :
    (Node.trace file namespaceName node).events.filterMap Event.tagged? =
      (Node.directStatements file namespaceName node).flatMap DirectStatement.tagged := by
  cases node with
  | container text kind name superclass statements =>
    rw [Node.trace] at complete ⊢
    have read := Trace.ofDecoded_complete complete
    rw [read] at complete ⊢
    simp only [Trace.followedBy_complete] at complete
    rcases complete with ⟨opened, inherited, located, inside⟩
    rw [Trace.events_followedBy opened, Trace.events_followedBy inherited,
      Trace.events_followedBy located, List.filterMap_append, List.filterMap_append,
      List.filterMap_append, Body.tagged_event, Body.tagged_inheritance, Body.tagged_location,
      Node.directStatements]
    exact tagged_bodyTrace _ [] statements inside
  | _ => rfl

theorem tagged_bodyTrace (body : Body) (before statements : List Node)
    (complete : (bodyTrace body (sectionBefore before) statements).fault = none) :
    (bodyTrace body (sectionBefore before) statements).events.filterMap Event.tagged? =
      (bodyStatements body before statements).flatMap DirectStatement.tagged := by
  cases statements with
  | nil => rfl
  | cons statement rest =>
    rw [bodyTrace_cons, Trace.followedBy_complete, ← sectionBefore_append] at complete
    rcases complete with ⟨said, later⟩
    have rest_tagged := tagged_bodyTrace body (before ++ [statement]) rest later
    rw [bodyTrace_cons, Trace.events_followedBy said, List.filterMap_append, ← sectionBefore_append,
      rest_tagged, bodyStatements, List.flatMap_cons, List.flatMap_append, ← List.append_assoc]
    congr 1
    cases statement with
    | method text head =>
      exact Body.tagged_definition body _ head said
    | call text name args =>
      exact (Body.tagged_call body text name args before said).trans (by simp [Node.directStatements])
    | container text kind name superclass inner =>
      exact tagged_trace body.file body.name _ said
    | _ => rfl

end

end RouteReport
