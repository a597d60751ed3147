import RouteReport.Proofs.Index.Growth
import RouteReport.Proofs.Index.Visibility

namespace RouteReport

open Ruby (ContainerKind Node)

mutual

/-- The containers that a definition opens: its own, and those opened inside. -/
def Node.opened (namespaceName : Text) : Node → List (ContainerKind × Text)
  | .container _ kind name _ statements =>
    (kind, qualifiedNameIn namespaceName (decoded name).trim) ::
      openedIn (qualifiedNameIn namespaceName (decoded name).trim) statements
  | _ => []

def openedIn (namespaceName : Text) : List Node → List (ContainerKind × Text)
  | [] => []
  | statement :: rest => Node.opened namespaceName statement ++ openedIn namespaceName rest

end

def ParsedSource.opened (source : ParsedSource) : List (ContainerKind × Text) :=
  openedIn [] source.statements

def Trace.Within (places : List (ContainerKind × Text)) (trace : Trace) : Prop :=
  ∀ event ∈ trace.events, (event.kind, event.name) ∈ places

namespace Trace.Within

variable {places : List (ContainerKind × Text)}

theorem none : Trace.none.Within places := by
  intro event member
  cases member

theorem followedBy {first second : Trace} (before : first.Within places)
    (after : second.Within places) : (first.followedBy second).Within places := by
  unfold Trace.followedBy
  split
  · exact before
  · intro event member
    rcases List.mem_append.mp member with early | late
    · exact before event early
    · exact after event late

theorem join {traces : List Trace} (each : ∀ trace ∈ traces, trace.Within places) :
    (Trace.join traces).Within places := by
  induction traces with
  | nil => exact none
  | cons first rest ih =>
    rw [Trace.join_cons]
    exact followedBy (each first List.mem_cons_self)
      (ih fun trace member => each trace (List.mem_cons_of_mem _ member))

theorem ofDecoded {octets : Octets} {next : Text → Trace}
    (said : (next (decoded octets)).Within places) : (Trace.ofDecoded octets next).Within places := by
  unfold Trace.ofDecoded
  unfold decoded at said
  cases text : Utf8.decode octets with
  | ok text =>
    rw [text] at said
    exact said
  | error fault =>
    intro event member
    cases member

theorem mono {wider : List (ContainerKind × Text)} {trace : Trace} (said : trace.Within places)
    (included : places ⊆ wider) : trace.Within wider :=
  fun event member => included (said event member)

end Trace.Within

namespace Body

variable {places : List (ContainerKind × Text)} {body : Body}
  (inside : (body.kind, body.name) ∈ places)

include inside

theorem within_event (fact : Fact) : (body.event fact).Within places := by
  intro event member
  rw [List.mem_singleton.mp member]
  exact inside

theorem within_definition (visibility : Visibility) (head : Ruby.MethodHead) :
    (body.definition visibility head).Within places :=
  .ofDecoded (within_event inside _)

theorem within_declaration (visibility : Visibility) (arg : Node) :
    (body.declaration visibility arg).Within places := by
  cases arg with
  | method text head => exact within_definition inside visibility head
  | _ =>
    refine .ofDecoded ?_
    split
    · split
      · exact .none
      · exact within_event inside _
    · exact .none

theorem within_inclusion (args : List Node) : (body.inclusion args).Within places := by
  unfold inclusion
  split
  · exact within_event inside _
  · intro event member
    cases member

theorem within_call (name : Octets) (args : List Node) : (body.call name args).Within places := by
  refine .ofDecoded ?_
  split
  · exact within_inclusion inside args
  · split
    · refine .join ?_
      intro trace member
      obtain ⟨arg, _, rfl⟩ := List.mem_map.mp member
      exact within_declaration inside _ arg
    · exact .none

theorem within_inheritance (superclass : Option Octets) :
    (body.inheritance superclass).Within places := by
  unfold inheritance
  split
  · refine .ofDecoded ?_
    dsimp only
    split
    · exact .none
    · exact within_event inside _
  · exact .none

theorem within_location : body.location.Within places := by
  unfold location
  split
  · exact .none
  · exact within_event inside _

end Body

mutual

theorem within_trace (file namespaceName : Text) (node : Node) :
    (Node.trace file namespaceName node).Within (Node.opened namespaceName node) := by
  cases node with
  | container text kind name superclass statements =>
    rw [Node.trace, Node.opened]
    refine .ofDecoded ?_
    generalize qualifiedNameIn namespaceName (decoded name).trim = own
    have inside : (kind, own) ∈ (kind, own) :: openedIn own statements := List.mem_cons_self
    refine .followedBy ?_ (.followedBy ?_ (.followedBy ?_ ?_))
    · exact Body.within_event inside _
    · exact Body.within_inheritance inside superclass
    · exact Body.within_location inside
    · exact within_bodyTrace _ _ statements
  | _ => exact .none

theorem within_bodyTrace (body : Body) (visibility : Visibility) (statements : List Node) :
    (bodyTrace body visibility statements).Within
      ((body.kind, body.name) :: openedIn body.name statements) := by
  cases statements with
  | nil => exact .none
  | cons statement rest =>
    rw [bodyTrace_cons, openedIn]
    refine .followedBy ?_ ?_
    · cases statement with
      | method text head => exact Body.within_definition List.mem_cons_self visibility head
      | call text name args => exact Body.within_call List.mem_cons_self name args
      | _ =>
        refine (within_trace body.file body.name _).mono ?_
        exact List.subset_cons_of_subset _ (List.subset_append_left _ _)
    · refine (within_bodyTrace body _ rest).mono ?_
      exact List.cons_subset_cons _ (List.subset_append_right _ _)

end

theorem within_traceOf (file : Text) (statements : List Node) :
    (traceOf file statements).Within (openedIn [] statements) := by
  induction statements with
  | nil => exact .none
  | cons statement rest ih =>
    rw [traceOf, List.map_cons, Trace.join_cons, openedIn]
    refine .followedBy ?_ ?_
    · exact (within_trace file [] statement).mono (List.subset_append_left _ _)
    · exact ih.mono (List.subset_append_right _ _)

namespace Index

variable {kind : ContainerKind} {name : Text}

theorem container?_foldl_of_silent {events : List Event}
    (silent : ∀ event ∈ events, (event.kind, event.name) ≠ (kind, name)) (index : Index) :
    (events.foldl apply index).container? kind name = index.container? kind name := by
  induction events generalizing index with
  | nil => rfl
  | cons event rest ih =>
    have other : ¬ (event.kind = kind ∧ event.name = name) := by
      simpa using silent event List.mem_cons_self
    rw [List.foldl_cons, ih fun later member => silent later (List.mem_cons_of_mem _ member),
      container?_apply, if_neg other]

theorem container?_foldl_congr {first second : Index}
    (same : first.container? kind name = second.container? kind name) (events : List Event) :
    (events.foldl apply first).container? kind name =
      (events.foldl apply second).container? kind name := by
  induction events generalizing first second with
  | nil => exact same
  | cons event rest ih =>
    apply ih
    rw [container?_apply, container?_apply, same]

theorem container?_add_of_not_opened {source : ParsedSource}
    (closed : (kind, name) ∉ source.opened) (index : Index) :
    (index.add source).container? kind name = index.container? kind name := by
  refine container?_foldl_of_silent ?_ index
  rintro event member same
  exact closed (same ▸ within_traceOf source.file source.statements event member)

end Index

/-- Two sources that open no container of the same kind and name give the same tables in either order.
In particular neither of them touches an entry that it does not open. -/
theorem independent_sources_commute (index : Index) {first second : ParsedSource}
    (apart : ∀ place ∈ first.opened, place ∉ second.opened) :
    (∀ kind name, ((index.add first).add second).container? kind name =
        ((index.add second).add first).container? kind name) ∧
      ∀ kind name, (kind, name) ∉ first.opened →
        (index.add first).container? kind name = index.container? kind name := by
  refine ⟨?_, fun kind name closed => Index.container?_add_of_not_opened closed index⟩
  intro kind name
  by_cases opened : (kind, name) ∈ first.opened
  · have untouched := Index.container?_add_of_not_opened (apart _ opened) index
    calc
      ((index.add first).add second).container? kind name =
          (index.add first).container? kind name :=
        Index.container?_add_of_not_opened (apart _ opened) _
      _ = ((index.add second).add first).container? kind name :=
        Index.container?_foldl_congr untouched.symm first.events
  · have untouched := Index.container?_add_of_not_opened opened index
    calc
      ((index.add first).add second).container? kind name =
          (index.add second).container? kind name :=
        Index.container?_foldl_congr untouched second.events
      _ = ((index.add second).add first).container? kind name :=
        (Index.container?_add_of_not_opened opened _).symm

def classSource : ParsedSource :=
  ⟨"/c.rb".toList, [sampleClass "A" [sampleDef "x", sampleClass "D" [sampleDef "y"],
    sampleCall "private" [.other (Utf8.encode ":z".toList)]]]⟩

def moduleSource : ParsedSource :=
  ⟨"/m.rb".toList, [.container [] .moduleKind (Utf8.encode "A".toList) none
    [sampleDef "x", sampleClass "B" [sampleCall "private" [], sampleDef "z"]]]⟩

theorem class_and_module_commute :
    (ContainerKind.moduleKind, "A".toList) ∈ moduleSource.opened ∧
      (ContainerKind.classKind, "A".toList) ∈ classSource.opened ∧
      ∀ kind name,
        (((Index.ofSources sampleSources).add classSource).add moduleSource).container? kind name =
          (((Index.ofSources sampleSources).add moduleSource).add classSource).container? kind name :=
  ⟨by decide +kernel, by decide +kernel,
    (independent_sources_commute _ (by decide +kernel)).1⟩

end RouteReport
