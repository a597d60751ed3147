import RouteReport.Proofs.Index.Coherence
import RouteReport.Proofs.Index.Independence

namespace RouteReport

open Ruby (ContainerKind Node)

def Fact.IsHeading (file : Text) (fact : Fact) : Prop :=
  fact = .opened ∨ file ≠ [] ∧ fact = .located file

mutual

theorem heading_of_opened (file namespaceName : Text) (node : Node)
    (complete : (Node.trace file namespaceName node).fault = none) {kind : ContainerKind}
    {name : Text} (opened : (kind, name) ∈ Node.opened namespaceName node) {fact : Fact}
    (heading : fact.IsHeading file) :
    ⟨kind, name, fact⟩ ∈ (Node.trace file namespaceName node).events := by
  cases node with
  | container text ownKind ownName superclass statements =>
    rw [Node.trace] at complete ⊢
    have read := Trace.ofDecoded_complete complete
    rw [read] at complete ⊢
    simp only [Trace.followedBy_complete] at complete
    rcases complete with ⟨start, inherited, located, within⟩
    rw [Trace.events_followedBy start, Trace.events_followedBy inherited,
      Trace.events_followedBy located]
    rw [Node.opened] at opened
    rcases List.mem_cons.mp opened with own | nested
    · obtain ⟨rfl, rfl⟩ := Prod.mk.injEq .. ▸ own
      rcases heading with rfl | ⟨named, rfl⟩
      · exact List.mem_append_left _ List.mem_cons_self
      · simp [Body.location, named, Body.event, Trace.one]
    · have said := heading_of_openedIn _ _ statements within nested heading
      simp [said]
  | _ => cases opened

theorem heading_of_openedIn (body : Body) (visibility : Visibility) (statements : List Node)
    (complete : (bodyTrace body visibility statements).fault = none) {kind : ContainerKind}
    {name : Text} (opened : (kind, name) ∈ openedIn body.name statements) {fact : Fact}
    (heading : fact.IsHeading body.file) :
    ⟨kind, name, fact⟩ ∈ (bodyTrace body visibility statements).events := by
  cases statements with
  | nil => cases opened
  | cons statement rest =>
    rw [bodyTrace_cons, Trace.followedBy_complete] at complete
    rw [bodyTrace_cons, Trace.events_followedBy complete.1, List.mem_append]
    rw [openedIn, List.mem_append] at opened
    rcases opened with here | later
    · left
      cases statement with
      | container text ownKind ownName superclass inner =>
        exact heading_of_opened body.file body.name _ complete.1 here heading
      | _ => cases here
    · exact .inr (heading_of_openedIn body _ rest complete.2 later heading)

end

/-- A source that is read to its end. -/
def ParsedSource.Complete (source : ParsedSource) : Prop :=
  (traceOf source.file source.statements).fault = none

instance (source : ParsedSource) : Decidable source.Complete :=
  inferInstanceAs (Decidable ((traceOf source.file source.statements).fault = none))

theorem ParsedSource.heading_of_opened {source : ParsedSource} (complete : source.Complete)
    {kind : ContainerKind} {name : Text} (opened : (kind, name) ∈ source.opened) {fact : Fact}
    (heading : fact.IsHeading source.file) : ⟨kind, name, fact⟩ ∈ source.events := by
  obtain ⟨file, statements⟩ := source
  simp only [Complete, ParsedSource.opened, ParsedSource.events] at *
  induction statements with
  | nil => cases opened
  | cons statement rest ih =>
    rw [traceOf, List.map_cons, Trace.join_cons, Trace.followedBy_complete] at complete
    rw [traceOf, List.map_cons, Trace.join_cons, Trace.events_followedBy complete.1, List.mem_append]
    rw [openedIn, List.mem_append] at opened
    rcases opened with here | later
    · exact .inl (RouteReport.heading_of_opened file [] statement complete.1 here heading)
    · exact .inr (ih complete.2 later)

namespace Index

theorem container?_foldl_isSome_iff (events : List Event) (kind : ContainerKind) (name : Text) :
    ((events.foldl apply Index.empty).container? kind name).isSome = true ↔
      ∃ event ∈ events, event.kind = kind ∧ event.name = name := by
  induction events using List.reverseRecOn with
  | nil => cases kind <;> simp [container?, table, Index.empty, ContainerTable.get?]
  | append_singleton front last ih =>
    rw [List.foldl_append, List.foldl_cons, List.foldl_nil, container?_apply]
    by_cases about : last.kind = kind ∧ last.name = name
    · simp [about]
    · simp only [about, if_false, ih, List.mem_append, List.mem_singleton, or_and_right, exists_or,
        exists_eq_left, or_false]

namespace Built

variable {sources : List ParsedSource} {index : Index} (built : Built sources index)
  {kind : ContainerKind} {name : Text}

include built

theorem container?_isSome_iff :
    (index.container? kind name).isSome = true ↔
      ∃ source ∈ sources, (kind, name) ∈ source.opened := by
  rw [built.eq_foldl, container?_foldl_isSome_iff]
  constructor
  · rintro ⟨event, said, rfl, rfl⟩
    obtain ⟨source, member, inSource⟩ := List.mem_flatMap.mp said
    exact ⟨source, member, within_traceOf source.file source.statements event inSource⟩
  · rintro ⟨source, member, opened⟩
    have said := ParsedSource.heading_of_opened (built.complete source member) opened (.inl rfl)
    exact ⟨_, List.mem_flatMap.mpr ⟨source, member, said⟩, rfl, rfl⟩

theorem file_mem_of_opened {source : ParsedSource} (member : source ∈ sources)
    (opened : (kind, name) ∈ source.opened) (named : source.file ≠ []) {container : Container}
    (known : index.container? kind name = some container) : source.file ∈ container.files := by
  have said := ParsedSource.heading_of_opened (built.complete source member) opened
    (.inr ⟨named, rfl⟩)
  obtain ⟨entry, found, inEntry⟩ :=
    file_mem_foldl (List.mem_flatMap.mpr ⟨source, member, said⟩) Index.empty
  rw [← built.eq_foldl, known] at found
  exact Option.some.inj found ▸ inEntry

end Built

end Index

end RouteReport
