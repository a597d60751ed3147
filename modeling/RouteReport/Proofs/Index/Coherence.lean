import RouteReport.Proofs.Index.Growth
import RouteReport.Proofs.Index.Visibility

/-! Every entry of a built index is coherent: it stands under its name in the table of its kind, owns
the definitions that it records, and knows the files that they come from. Further sources only add. -/

namespace RouteReport

open Ruby (ContainerKind Node)

/-- What holds of an entry in the table of a kind. -/
structure Container.Coherent (kind : ContainerKind) (container : Container) : Prop where
  kind_eq : container.kind = kind
  methods : ∀ name definitions, (name, definitions) ∈ container.methods →
    definitions ≠ [] ∧ ∀ method ∈ definitions,
      method.name = name ∧ method.ownerKind = kind ∧ method.owner = container.qualifiedName
  recorded : ∀ method ∈ container.definitions,
    ∃ definitions, (method.name, definitions) ∈ container.methods ∧ method ∈ definitions
  files_distinct : container.files.Nodup
  located : ∀ method ∈ container.definitions, method.file ≠ [] → method.file ∈ container.files

theorem Container.mem_methods {container : Container} {name : Text} {definitions : List Method}
    (listed : (name, definitions) ∈ container.methods) :
    definitions ≠ [] ∧ ∀ method ∈ definitions, method.name = name ∧ method ∈ container.definitions := by
  obtain ⟨key, present, same⟩ := List.mem_map.mp listed
  obtain ⟨rfl, rfl⟩ := Prod.mk.injEq _ _ _ _ ▸ same
  obtain ⟨method, defined, rfl⟩ := List.mem_map.mp (List.mem_eraseDups.mp present)
  constructor
  · exact List.ne_nil_of_mem (List.mem_filter.mpr ⟨defined, by simp⟩)
  · intro other member
    obtain ⟨recorded, named⟩ := List.mem_filter.mp member
    exact ⟨by simpa using named, recorded⟩

theorem Container.recorded_methods {container : Container} {method : Method}
    (defined : method ∈ container.definitions) :
    ∃ definitions, (method.name, definitions) ∈ container.methods ∧ method ∈ definitions := by
  refine ⟨container.definitionsOf method.name, List.mem_map.mpr ⟨method.name, ?_, rfl⟩, ?_⟩
  · exact List.mem_eraseDups.mpr (List.mem_map_of_mem defined)
  · exact List.mem_filter.mpr ⟨defined, by simp⟩

namespace Index

theorem invariant_foldl (property : ContainerKind → Container → Prop)
    (fresh : ∀ kind name, property kind (.new kind name))
    (kept : ∀ kind (fact : Fact) container, property kind container →
      property kind (fact.update container))
    (events : List Event) (kind : ContainerKind) (name : Text) {container : Container}
    (known : (events.foldl apply Index.empty).container? kind name = some container) :
    property kind container := by
  induction events using List.reverseRecOn generalizing kind name container with
  | nil => cases kind <;> cases known
  | append_singleton front last ih =>
    rw [List.foldl_append, List.foldl_cons, List.foldl_nil, container?_apply] at known
    split at known
    · rw [← Option.some.inj known]
      apply kept
      cases earlier : (front.foldl apply Index.empty).container? kind name with
      | none => exact fresh kind name
      | some old => exact ih kind name earlier
    · exact ih kind name known

theorem kind_foldl (events : List Event) (kind : ContainerKind) (name : Text) {container : Container}
    (known : (events.foldl apply Index.empty).container? kind name = some container) :
    container.kind = kind := by
  refine invariant_foldl (fun kind container => container.kind = kind) (fun _ _ => rfl) ?_
    events kind name known
  intro kind fact old holds
  exact (fact.grows old).kind.trans holds

theorem files_distinct_foldl (events : List Event) (kind : ContainerKind) (name : Text)
    {container : Container}
    (known : (events.foldl apply Index.empty).container? kind name = some container) :
    container.files.Nodup := by
  refine invariant_foldl (fun _ container => container.files.Nodup) (fun _ _ => List.nodup_nil) ?_
    events kind name known
  intro kind fact old distinct
  cases fact with
  | located file =>
    by_cases present : old.files.contains file = true
    · rwa [Fact.update, if_pos present]
    · rw [Fact.update, if_neg present]
      exact List.nodup_append.mpr ⟨distinct, List.nodup_singleton file, by
        rintro other member last here rfl
        exact present (by simpa [List.mem_singleton.mp here] using member)⟩
  | _ => exact distinct

theorem file_mem_foldl {events : List Event} {kind : ContainerKind} {name file : Text}
    (said : ⟨kind, name, .located file⟩ ∈ events) (index : Index) :
    ∃ container, (events.foldl apply index).container? kind name = some container ∧
      file ∈ container.files := by
  obtain ⟨front, back, rfl⟩ := List.append_of_mem said
  rw [List.foldl_append, List.foldl_cons]
  generalize front.foldl apply index = earlier
  have now := container?_apply earlier ⟨kind, name, .located file⟩ kind name
  rw [if_pos ⟨rfl, rfl⟩] at now
  obtain ⟨later, known, grown⟩ := grows_foldl back now
  refine ⟨later, known, grown.files.subset ?_⟩
  generalize (earlier.container? kind name).getD (.new kind name) = container
  by_cases present : container.files.contains file = true
  · rw [Fact.update, if_pos present]
    simpa using present
  · rw [Fact.update, if_neg present]
    simp

end Index

mutual

theorem located_of_directStatement (file namespaceName : Text) (node : Node)
    (complete : (Node.trace file namespaceName node).fault = none) {direct : DirectStatement}
    (member : direct ∈ Node.directStatements file namespaceName node)
    (named : direct.body.file ≠ []) :
    ⟨direct.body.kind, direct.body.name, .located direct.body.file⟩ ∈
      (Node.trace file namespaceName node).events := by
  cases node with
  | container text kind name superclass statements =>
    rw [Node.directStatements] at member
    rw [Node.trace] at complete ⊢
    have read := Trace.ofDecoded_complete complete
    rw [read] at complete ⊢
    simp only [Trace.followedBy_complete] at complete
    rcases complete with ⟨opened, inherited, located, inside⟩
    rw [Trace.events_followedBy opened, Trace.events_followedBy inherited,
      Trace.events_followedBy located]
    rcases located_of_bodyStatement _ [] _ statements inside member named with own | nested
    · have here : direct.body.location.events =
          [⟨direct.body.kind, direct.body.name, .located direct.body.file⟩] := by
        simp [Body.location, named, Body.event, Trace.one]
      rw [own] at here
      simp [own, here]
    · simp [nested]
  | _ => cases member

theorem located_of_bodyStatement (body : Body) (before : List Node) (visibility : Visibility)
    (statements : List Node) (complete : (bodyTrace body visibility statements).fault = none)
    {direct : DirectStatement} (member : direct ∈ bodyStatements body before statements)
    (named : direct.body.file ≠ []) :
    direct.body = body ∨ ⟨direct.body.kind, direct.body.name, .located direct.body.file⟩ ∈
      (bodyTrace body visibility statements).events := by
  cases statements with
  | nil => cases member
  | cons statement rest =>
    rw [bodyTrace_cons, Trace.followedBy_complete] at complete
    rw [bodyTrace_cons, Trace.events_followedBy complete.1, List.mem_append]
    rw [bodyStatements, List.mem_cons, List.mem_append] at member
    rcases member with rfl | inside | later
    · exact .inl rfl
    · cases statement with
      | container text kind name superclass inner =>
        exact .inr (.inl (located_of_directStatement body.file body.name _ complete.1 inside named))
      | _ => cases inside
    · exact (located_of_bodyStatement body (before ++ [statement]) _ rest complete.2 later named).imp_right
        .inr

end

theorem Index.Built.file_mem {sources : List ParsedSource} {index : Index}
    (built : Index.Built sources index) (kind : ContainerKind) {container : Container}
    (member : container ∈ index.table kind) {method : Method}
    (defined : method ∈ container.definitions) (named : method.file ≠ []) :
    method.file ∈ container.files := by
  obtain ⟨source, inSources, direct, inSource, inKind, inContainer, _, _, inFile⟩ :=
    built.written kind member defined
  obtain ⟨statement, listed, inside⟩ := List.mem_flatMap.mp inSource
  rw [inFile] at named ⊢
  obtain ⟨each, events⟩ := Trace.join_complete (built.complete source inSources)
  have complete := each _ (List.mem_map_of_mem listed)
  have said := located_of_directStatement source.file [] statement complete inside named
  have inEvents : ⟨kind, container.qualifiedName, .located direct.body.file⟩ ∈
      sources.flatMap (·.events) := by
    rw [← inKind, ← inContainer]
    refine List.mem_flatMap.mpr ⟨source, inSources, ?_⟩
    rw [ParsedSource.events, traceOf, events]
    exact List.mem_flatMap.mpr ⟨_, List.mem_map_of_mem listed, said⟩
  obtain ⟨entry, found, inEntry⟩ := Index.file_mem_foldl inEvents Index.empty
  rw [← built.eq_foldl, built.container?_of_mem member] at found
  exact Option.some.inj found ▸ inEntry

theorem Index.Built.coherent {sources : List ParsedSource} {index : Index}
    (built : Index.Built sources index) (kind : ContainerKind) {container : Container}
    (member : container ∈ index.table kind) : container.Coherent kind := by
  have known := built.container?_of_mem member
  rw [built.eq_foldl] at known
  exact {
    kind_eq := Index.kind_foldl _ kind _ known
    methods := by
      intro name definitions listed
      obtain ⟨nonempty, each⟩ := Container.mem_methods listed
      refine ⟨nonempty, ?_⟩
      intro method present
      obtain ⟨named, defined⟩ := each method present
      exact ⟨named, built.owner kind member defined⟩
    recorded := fun _ defined => Container.recorded_methods defined
    files_distinct := Index.files_distinct_foldl _ kind _ known
    located := fun _ defined named => built.file_mem kind member defined named }

/-- In a built index every key leads to the coherent entry of its name, and one more source, read to
its end or not, moves no key and lets each entry grow. -/
theorem coherent_and_growing {sources : List ParsedSource} {index : Index}
    (built : Index.Built sources index) :
    (∀ kind, (index.table kind).names.Nodup ∧
        ∀ name container, index.container? kind name = some container →
          container.qualifiedName = name ∧ container.Coherent kind) ∧
      ∀ (source : ParsedSource) (kind : ContainerKind),
        (index.table kind).names <+: ((index.add source).table kind).names ∧
          ∀ name old, index.container? kind name = some old →
            ∃ new, (index.add source).container? kind name = some new ∧ old.Grows new := by
  constructor
  · intro kind
    refine ⟨built.distinct kind, ?_⟩
    intro name container known
    obtain ⟨member, named⟩ := ContainerTable.mem_of_get? known
    exact ⟨named, built.coherent kind member⟩
  · intro source kind
    refine ⟨Index.names_prefix_foldl source.events index kind, ?_⟩
    intro name old known
    exact Index.grows_foldl source.events known

def laterSource : ParsedSource :=
  ⟨"/c.rb".toList, [.container [] .classKind (Utf8.encode "A".toList)
    (some (Utf8.encode "P".toList)) [sampleDef "x",
      sampleCall "private" [.other (Utf8.encode ":z".toList)]]]⟩

theorem growing_of_sample :
    Index.Built sampleSources (.ofSources sampleSources) ∧
      ∃ old new, old.Coherent .classKind ∧ old.Grows new ∧
        (Index.ofSources sampleSources).container? .classKind "A".toList = some old ∧
        ((Index.ofSources sampleSources).add laterSource).container? .classKind "A".toList =
          some new ∧
        old.files = ["/a.rb".toList, "/b.rb".toList] ∧
        new.files = ["/a.rb".toList, "/b.rb".toList, "/c.rb".toList] := by
  have before : ((Index.ofSources sampleSources).container? .classKind "A".toList).map (·.files) =
      some ["/a.rb".toList, "/b.rb".toList] := by
    decide +kernel
  have after : (((Index.ofSources sampleSources).add laterSource).container? .classKind
      "A".toList).map (·.files) = some ["/a.rb".toList, "/b.rb".toList, "/c.rb".toList] := by
    decide +kernel
  obtain ⟨old, known, oldFiles⟩ := Option.map_eq_some_iff.mp before
  obtain ⟨coherent, growing⟩ := coherent_and_growing built_sample
  obtain ⟨new, grown, grows⟩ := (growing laterSource .classKind).2 _ old known
  rw [grown] at after
  exact ⟨built_sample, old, new, ((coherent .classKind).2 _ old known).2, grows, known, grown, oldFiles,
    Option.some.inj after⟩

end RouteReport
