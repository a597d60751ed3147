import RouteReport.Proofs.Index.Sayings

/-! The texts of a source that its reading decodes, in their order. The source is read to its end just when
all of them can be decoded, and else up to the first that cannot. -/

namespace RouteReport

open Ruby (ContainerKind Node)

/-- The reason why octets are not text. -/
def decodeFault? (octets : Octets) : Option Utf8.DecodeError :=
  match Utf8.decode octets with
  | .ok _ => none
  | .error fault => some fault

def declaredText : Node → Octets
  | .method _ head => head.name
  | arg => arg.text

def callTexts (name : Octets) (args : List Node) : List Octets :=
  name :: if decoded name = "include".toList then (args.filter (·.isConstantPath)).map (·.text)
    else if (keyword? name).isSome then args.map declaredText else []

/-- The text of the superclass clause, which a module has not. -/
def superclassTexts : ContainerKind → Option Octets → List Octets
  | .classKind, some octets => [octets]
  | _, _ => []

mutual

def Node.texts : Node → List Octets
  | .container _ kind name superclass statements =>
    name :: superclassTexts kind superclass ++ bodyTexts statements
  | _ => []

def bodyTexts : List Node → List Octets
  | [] => []
  | statement :: rest =>
    let asked := match statement with
      | .method _ head => [head.name]
      | .call _ name args => callTexts name args
      | statement => Node.texts statement
    asked ++ bodyTexts rest

end

def statementTexts : Node → List Octets
  | .method _ head => [head.name]
  | .call _ name args => callTexts name args
  | statement => Node.texts statement

theorem bodyTexts_cons (statement : Node) (rest : List Node) :
    bodyTexts (statement :: rest) = statementTexts statement ++ bodyTexts rest := by
  cases statement <;> simp only [bodyTexts, statementTexts]

def ParsedSource.texts (source : ParsedSource) : List Octets := source.statements.flatMap Node.texts

namespace Trace

theorem fault_followedBy (first second : Trace) :
    (first.followedBy second).fault = first.fault.or second.fault := by
  cases fault : first.fault <;> simp [followedBy, fault]

theorem fault_join (traces : List Trace) :
    (join traces).fault = traces.findSome? (·.fault) := by
  induction traces with
  | nil => rfl
  | cons first rest ih =>
    rw [join_cons, fault_followedBy, ih, List.findSome?_cons]
    cases first.fault <;> rfl

theorem fault_ofDecoded (octets : Octets) (next : Text → Trace) :
    (ofDecoded octets next).fault = (decodeFault? octets).or (next (decoded octets)).fault := by
  unfold ofDecoded decodeFault? decoded
  cases Utf8.decode octets <;> rfl

theorem fault_ofDecoded_of_complete (octets : Octets) {next : Text → Trace}
    (complete : ∀ text, (next text).fault = .none) :
    (ofDecoded octets next).fault = decodeFault? octets := by
  rw [fault_ofDecoded, complete, Option.or_none]

theorem ofDecoded_of_decodable {octets : Octets} (decodable : decodeFault? octets = .none)
    (next : Text → Trace) : ofDecoded octets next = next (decoded octets) := by
  unfold decodeFault? at decodable
  unfold ofDecoded decoded
  cases text : Utf8.decode octets with
  | ok text => rfl
  | error fault => simp [text] at decodable

theorem ofDecoded_of_undecodable {octets : Octets} {fault : Utf8.DecodeError}
    (undecodable : decodeFault? octets = some fault) (next : Text → Trace) :
    ofDecoded octets next = ⟨[], some fault⟩ := by
  unfold decodeFault? at undecodable
  unfold ofDecoded
  cases text : Utf8.decode octets with
  | ok text => simp [text] at undecodable
  | error other => simpa [text] using undecodable

theorem followedBy_of_fault {first : Trace} {fault : Utf8.DecodeError}
    (faulty : first.fault = some fault) (second : Trace) : first.followedBy second = first := by
  simp [followedBy, faulty]

theorem events_subset_followedBy (first second : Trace) :
    first.events ⊆ (first.followedBy second).events := by
  rw [followedBy]
  split
  · exact List.Subset.refl _
  · exact List.subset_append_left _ _

end Trace

namespace Body

variable (body : Body)

theorem fault_definition (visibility : Visibility) (head : Ruby.MethodHead) :
    (body.definition visibility head).fault = decodeFault? head.name :=
  Trace.fault_ofDecoded_of_complete _ fun _ => rfl

theorem fault_declaration (visibility : Visibility) (arg : Node) :
    (body.declaration visibility arg).fault = decodeFault? (declaredText arg) := by
  cases arg with
  | method text head => exact body.fault_definition visibility head
  | _ =>
    refine Trace.fault_ofDecoded_of_complete _ fun text => ?_
    split
    · split <;> rfl
    · rfl

theorem fault_inclusion (args : List Node) :
    (body.inclusion args).fault =
      ((args.filter (·.isConstantPath)).map (·.text)).findSome? decodeFault? := by
  rw [inclusion]
  induction args.filter (·.isConstantPath) with
  | nil => rfl
  | cons path rest ih =>
    rw [List.map_cons, List.findSome?_cons, ← ih, List.mapM_cons, decodeFault?]
    cases Utf8.decode path.text with
    | error fault => rfl
    | ok text => cases rest.mapM fun arg => Utf8.decode arg.text <;> rfl

theorem fault_call (name : Octets) (args : List Node) :
    (body.call name args).fault = (callTexts name args).findSome? decodeFault? := by
  rw [call, Trace.fault_ofDecoded, callTexts, List.findSome?_cons, keyword?]
  cases decodeFault? name with
  | some fault => rfl
  | none =>
    rw [Option.none_or]
    by_cases isInclude : decoded name = "include".toList
    · simp only [isInclude, beq_self_eq_true, ↓reduceIte]
      exact body.fault_inclusion args
    · simp only [beq_iff_eq, isInclude, ↓reduceIte]
      cases Visibility.ofName? (decoded name) with
      | none => rfl
      | some visibility =>
        simp [Trace.fault_join, List.findSome?_map, Function.comp_def, fault_declaration]

theorem fault_inheritance (kind : ContainerKind) (name file : Text) (superclass : Option Octets) :
    (Body.inheritance ⟨kind, name, file⟩ superclass).fault =
      (superclassTexts kind superclass).findSome? decodeFault? := by
  match kind, superclass with
  | .moduleKind, _ => rfl
  | .classKind, none => rfl
  | .classKind, some octets =>
    rw [superclassTexts, List.findSome?_singleton]
    refine Trace.fault_ofDecoded_of_complete _ fun text => ?_
    dsimp only
    split <;> rfl

theorem inheritance_of_fault (kind : ContainerKind) (name file : Text) {superclass : Option Octets}
    {fault : Utf8.DecodeError}
    (undecodable : (superclassTexts kind superclass).findSome? decodeFault? = some fault) :
    Body.inheritance ⟨kind, name, file⟩ superclass = ⟨[], some fault⟩ := by
  match kind, superclass with
  | .moduleKind, _ => cases undecodable
  | .classKind, none => cases undecodable
  | .classKind, some octets =>
    rw [superclassTexts, List.findSome?_singleton] at undecodable
    simp only [inheritance, Trace.ofDecoded_of_undecodable undecodable]

theorem fault_location : body.location.fault = none := by
  unfold location
  split <;> rfl

end Body

mutual

theorem fault_trace (file namespaceName : Text) (node : Node) :
    (Node.trace file namespaceName node).fault = (Node.texts node).findSome? decodeFault? := by
  cases node with
  | container text kind name superclass statements =>
    rw [Node.trace, Trace.fault_ofDecoded, Node.texts, List.cons_append, List.findSome?_cons,
      List.findSome?_append]
    simp only [Trace.fault_followedBy, Body.fault_inheritance, Body.fault_location, fault_bodyTrace]
    cases decodeFault? name <;> rfl
  | _ => rfl

theorem fault_bodyTrace (body : Body) (visibility : Visibility) (statements : List Node) :
    (bodyTrace body visibility statements).fault = (bodyTexts statements).findSome? decodeFault? := by
  cases statements with
  | nil => rfl
  | cons statement rest =>
    rw [bodyTrace_cons, Trace.fault_followedBy, fault_bodyTrace, bodyTexts_cons,
      List.findSome?_append]
    congr 1
    cases statement with
    | method text head =>
      rw [statementTexts, List.findSome?_singleton]
      exact body.fault_definition visibility head
    | call text name args => exact body.fault_call name args
    | container text kind name superclass inner => exact fault_trace body.file body.name _
    | _ => rfl

end

theorem ParsedSource.fault_eq (source : ParsedSource) :
    (traceOf source.file source.statements).fault = source.texts.findSome? decodeFault? := by
  obtain ⟨file, statements⟩ := source
  rw [traceOf, Trace.fault_join, texts]
  dsimp only
  induction statements with
  | nil => rfl
  | cons statement rest ih =>
    rw [List.map_cons, List.findSome?_cons, ih, fault_trace, List.flatMap_cons, List.findSome?_append]
    cases (Node.texts statement).findSome? decodeFault? <;> rfl

end RouteReport
