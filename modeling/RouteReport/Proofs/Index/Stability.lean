import RouteReport.Proofs.Index.Lookup
import RouteReport.Proofs.Index.Opening

/-! Lookups while an index grows. A name that is not in the index as it is written is taken for the one
that came first into it among those that are the same but for case, and further sources leave this choice
alone until one of them opens the name itself. -/

namespace RouteReport

open Ruby (ContainerKind Node)

def Event.place (event : Event) : ContainerKind × Text := (event.kind, event.name)

namespace Trace

/-- The places that the events of a trace are about. -/
def places (trace : Trace) : List (ContainerKind × Text) := trace.events.map Event.place

theorem places_followedBy {first second : Trace} (complete : first.fault = .none) :
    (first.followedBy second).places = first.places ++ second.places := by
  rw [places, events_followedBy complete, List.map_append]
  rfl

theorem find?_places_of_within {trace : Trace} {own : ContainerKind × Text} (within : trace.Within [own])
    {sought : ContainerKind × Text → Bool} (other : sought own = false) :
    trace.places.find? sought = .none := by
  rw [List.find?_eq_none]
  rintro place listed hit
  obtain ⟨event, said, rfl⟩ := List.mem_map.mp listed
  have same : event.place = own := List.mem_singleton.mp (within event said)
  rw [same, other] at hit
  cases hit

end Trace

section Order

variable (sought : ContainerKind × Text → Bool)

mutual

theorem find?_places_trace (file namespaceName : Text) (node : Node)
    (complete : (Node.trace file namespaceName node).fault = none) :
    (Node.trace file namespaceName node).places.find? sought =
      (Node.opened namespaceName node).find? sought := by
  cases node with
  | container text kind name superclass statements =>
    rw [Node.trace] at complete ⊢
    have read := Trace.ofDecoded_complete complete
    rw [read] at complete ⊢
    simp only [Trace.followedBy_complete] at complete
    rcases complete with ⟨start, inherited, located, within⟩
    rw [Trace.places_followedBy start, Trace.places_followedBy inherited,
      Trace.places_followedBy located, Node.opened]
    generalize own : qualifiedNameIn namespaceName (decoded name).trim = qualifiedName at *
    have first : (Body.event ⟨kind, qualifiedName, file⟩ .opened).places = [(kind, qualifiedName)] := rfl
    rw [first, List.singleton_append, List.find?_cons, List.find?_cons]
    cases here : sought (kind, qualifiedName) with
    | true => rfl
    | false =>
      -- what the heading goes on to say is about the container itself, which is not sought
      have inside : (kind, qualifiedName) ∈ [(kind, qualifiedName)] := List.mem_cons_self
      rw [List.find?_append, List.find?_append,
        Trace.find?_places_of_within (Body.within_inheritance inside superclass) here,
        Trace.find?_places_of_within (Body.within_location inside) here, Option.none_or, Option.none_or]
      exact find?_places_bodyTrace _ _ statements within here
  | _ => rfl

theorem find?_places_bodyTrace (body : Body) (visibility : Visibility) (statements : List Node)
    (complete : (bodyTrace body visibility statements).fault = none)
    (other : sought (body.kind, body.name) = false) :
    (bodyTrace body visibility statements).places.find? sought =
      (openedIn body.name statements).find? sought := by
  cases statements with
  | nil => rfl
  | cons statement rest =>
    rw [bodyTrace_cons, Trace.followedBy_complete] at complete
    rw [bodyTrace_cons, Trace.places_followedBy complete.1, openedIn, List.find?_append,
      List.find?_append, find?_places_bodyTrace body _ rest complete.2 other]
    have inside : (body.kind, body.name) ∈ [(body.kind, body.name)] := List.mem_cons_self
    congr 1
    cases statement with
    | method text head =>
      exact Trace.find?_places_of_within (Body.within_definition inside visibility head) other
    | call text name args =>
      exact Trace.find?_places_of_within (Body.within_call inside name args) other
    | _ => exact find?_places_trace body.file body.name _ complete.1

end

theorem ParsedSource.find?_events {source : ParsedSource} (complete : source.Complete) :
    (source.events.map Event.place).find? sought = source.opened.find? sought := by
  obtain ⟨file, statements⟩ := source
  have whole : (traceOf file statements).places.find? sought = (openedIn [] statements).find? sought := by
    induction statements with
    | nil => rfl
    | cons statement rest ih =>
      rw [Complete, traceOf, List.map_cons, Trace.join_cons, Trace.followedBy_complete] at complete
      rw [traceOf, List.map_cons, Trace.join_cons, Trace.places_followedBy complete.1, openedIn,
        List.find?_append, List.find?_append, find?_places_trace sought file [] statement complete.1]
      exact congrArg _ (ih complete.2)
  exact whole

theorem find?_places_sources {sources : List ParsedSource}
    (complete : ∀ source ∈ sources, source.Complete) :
    ((sources.flatMap (·.events)).map Event.place).find? sought =
      (sources.flatMap (·.opened)).find? sought := by
  induction sources with
  | nil => rfl
  | cons source rest ih =>
    obtain ⟨first, later⟩ := List.forall_mem_cons.mp complete
    rw [List.flatMap_cons, List.flatMap_cons, List.map_append, List.find?_append, List.find?_append,
      ParsedSource.find?_events sought first, ih later]

end Order

/-- The names of the containers of a kind that the index is told of, in the order in which it is, by each
source up to where that cannot be read. -/
def indexed (kind : ContainerKind) (sources : List ParsedSource) : List Text :=
  ((sources.flatMap (·.events)).filter (·.kind = kind)).map (·.name)

/-- The names of the containers of a kind that sources open, in the order in which they do. -/
def openings (kind : ContainerKind) (sources : List ParsedSource) : List Text :=
  ((sources.flatMap (·.opened)).filter (·.1 = kind)).map (·.2)

theorem find?_indexed {sources : List ParsedSource} (complete : ∀ source ∈ sources, source.Complete)
    (kind : ContainerKind) (sought : Text → Bool) :
    (indexed kind sources).find? sought = (openings kind sources).find? sought := by
  have places := find?_places_sources (fun place => place.1 = kind && sought place.2) complete
  rw [List.find?_map] at places
  rw [indexed, openings, List.find?_map, List.find?_map, List.find?_filter, List.find?_filter]
  simp only [Function.comp_def, Bool.decide_and, Bool.decide_eq_true] at places ⊢
  rw [← places, Option.map_map]
  rfl

namespace ContainerTable

theorem find?_by_name {table : ContainerTable} (distinct : table.names.Nodup) (sought : Text → Bool) :
    (table.find? fun entry => sought entry.qualifiedName) = (table.names.find? sought).bind table.get? := by
  rw [names, List.find?_map, Function.comp_def]
  cases found : table.find? fun entry => sought entry.qualifiedName with
  | none => rfl
  | some entry => exact (get?_of_mem distinct (List.mem_of_find?_eq_some found)).symm

end ContainerTable

namespace Index

/-- The lookup of classes, or that of modules. -/
def find? (index : Index) : ContainerKind → Text → Option Container
  | .classKind => index.class?
  | .moduleKind => index.module?

variable {kind : ContainerKind} {name : Text}

/-- The same name but for case. -/
def likeName (name other : Text) : Bool := Text.lower other == name.lower

theorem find?_eq {index : Index} (distinct : (index.table kind).names.Nodup)
    (named : soughtName name ≠ []) :
    index.find? kind name = (index.container? kind (soughtName name)).or
      (((index.table kind).names.find? (likeName (soughtName name))).bind (index.container? kind)) := by
  have byKind : index.find? kind name = (index.table kind).lookup? name := by cases kind <;> rfl
  have folded := ContainerTable.find?_by_name distinct (likeName (soughtName name))
  have exactly : index.container? kind = (index.table kind).get? := rfl
  rw [byKind, ContainerTable.lookup?_of_bare _ rfl named, exactly, ← folded, Option.or_eq_orElse]
  rfl

theorem find?_names_foldl (events : List Event) (kind : ContainerKind) (sought : Text → Bool) :
    ((events.foldl apply Index.empty).table kind).names.find? sought =
      ((events.filter (·.kind = kind)).map (·.name)).find? sought := by
  induction events using List.reverseRecOn with
  | nil => cases kind <;> rfl
  | append_singleton front last ih =>
    rw [List.foldl_append, List.foldl_cons, List.foldl_nil, List.filter_append, List.map_append,
      List.find?_append, ← ih, apply, table_change]
    by_cases about : last.kind = kind
    · have name : ([last].filter (·.kind = kind)).map (·.name) = [last.name] := by simp [about]
      rw [if_pos about, ContainerTable.names_change _ _ last.fact.update_qualifiedName, name]
      generalize ((front.foldl apply Index.empty).table kind).names = names
      by_cases known : last.name ∈ names
      · rw [if_pos known]
        cases found : names.find? sought with
        | some first => rfl
        | none =>
          have other : sought last.name = false := by
            simpa using List.find?_eq_none.mp found last.name known
          simp [other]
      · rw [if_neg known, List.find?_append]
    · rw [if_neg about]
      simp [about]

theorem find?_names (sources : List ParsedSource) (kind : ContainerKind) (sought : Text → Bool) :
    ((ofSources sources).table kind).names.find? sought = (indexed kind sources).find? sought := by
  rw [ofSources_eq_foldl, find?_names_foldl, indexed]

theorem find?_names_add {index : Index} (source : ParsedSource) {sought : Text → Bool} {chosen : Text}
    (found : (index.table kind).names.find? sought = some chosen) :
    ((index.add source).table kind).names.find? sought = some chosen :=
  (names_prefix_foldl source.events index kind).find?_eq_some found

theorem grows_add {index : Index} (source : ParsedSource) {old : Container}
    (known : index.container? kind name = some old) :
    ∃ new, (index.add source).container? kind name = some new ∧ old.Grows new :=
  grows_foldl source.events known

theorem ofSources_concat (sources : List ParsedSource) (source : ParsedSource) :
    ofSources (sources ++ [source]) = (ofSources sources).add source := by
  rw [ofSources, List.foldl_append]
  rfl

theorem isSome_add_of_opened (sources : List ParsedSource) {source : ParsedSource}
    (complete : source.Complete) (opened : (kind, name) ∈ source.opened) :
    (((ofSources sources).add source).container? kind name).isSome = true := by
  rw [← ofSources_concat, ofSources_eq_foldl, container?_foldl_isSome_iff]
  have said := ParsedSource.heading_of_opened complete opened (.inl rfl)
  exact ⟨_, List.mem_flatMap.mpr ⟨source, List.mem_append_right _ List.mem_cons_self, said⟩, rfl, rfl⟩

section Lookup

variable {index : Index} (distinct : (index.table kind).names.Nodup) (named : soughtName name ≠ [])
  {old : Container}

include distinct named

theorem find?_of_exact (known : index.container? kind (soughtName name) = some old) :
    index.find? kind name = some old := by
  rw [find?_eq distinct named, known, Option.some_or]

theorem find?_of_chosen (unknown : index.container? kind (soughtName name) = none) {chosen : Text}
    (first : (index.table kind).names.find? (likeName (soughtName name)) = some chosen) :
    index.find? kind name = index.container? kind chosen := by
  rw [find?_eq distinct named, unknown, Option.none_or, first, Option.bind_some]

theorem chosen_of_find? (unknown : index.container? kind (soughtName name) = none)
    (found : index.find? kind name = some old) :
    (index.table kind).names.find? (likeName (soughtName name)) = some old.qualifiedName ∧
      index.container? kind old.qualifiedName = some old := by
  rw [find?_eq distinct named, unknown, Option.none_or] at found
  obtain ⟨chosen, first, known⟩ := Option.bind_eq_some_iff.mp found
  obtain rfl : old.qualifiedName = chosen := (ContainerTable.mem_of_get? known).2
  exact ⟨first, known⟩

end Lookup

/-- A lookup finds the entry of the name as it is written, else that of the name which came first into the
index among those that are the same but for case; sources that are read to their end enter names in the
order in which they open them. One more such source leaves a lookup with a result, and with the same
entry, grown, unless there was none of the name as it is written and the source opens it: then that is
what is found from now on. -/
theorem lookup_stable (sources : List ParsedSource) (kind : ContainerKind) {name : Text}
    (named : soughtName name ≠ []) :
    (ofSources sources).find? kind name = ((ofSources sources).container? kind (soughtName name)).or
        (((indexed kind sources).find? (likeName (soughtName name))).bind
          ((ofSources sources).container? kind)) ∧
      ((∀ source ∈ sources, source.Complete) →
        (indexed kind sources).find? (likeName (soughtName name)) =
          (openings kind sources).find? (likeName (soughtName name))) ∧
      ∀ source : ParsedSource, source.Complete → ∀ old, (ofSources sources).find? kind name = some old →
        ∃ new, ((ofSources sources).add source).find? kind name = some new ∧
          ((ofSources sources).container? kind (soughtName name) = some old ∨
              (kind, soughtName name) ∉ source.opened →
            ((ofSources sources).add source).container? kind old.qualifiedName = some new ∧
              old.Grows new) ∧
          ((kind, soughtName name) ∈ source.opened → new.qualifiedName = soughtName name) := by
  have distinct := distinct_ofSources sources kind
  refine ⟨?_, fun complete => find?_indexed complete kind _, ?_⟩
  · rw [find?_eq distinct named, find?_names]
  · intro source complete old found
    have later : (((ofSources sources).add source).table kind).names.Nodup :=
      ofSources_concat sources source ▸ distinct_ofSources (sources ++ [source]) kind
    cases before : (ofSources sources).container? kind (soughtName name) with
    | some entry =>
      obtain rfl : entry = old :=
        Option.some.inj ((find?_of_exact distinct named before).symm.trans found)
      obtain ⟨new, known, grows⟩ := grows_add source before
      have sameName := (ContainerTable.mem_of_get? before).2
      refine ⟨new, find?_of_exact later named known, fun _ => ⟨sameName ▸ known, grows⟩, ?_⟩
      exact fun _ => (ContainerTable.mem_of_get? known).2
    | none =>
      obtain ⟨first, known⟩ := chosen_of_find? distinct named before found
      obtain ⟨grown, kept, grows⟩ := grows_add source known
      cases after : ((ofSources sources).add source).container? kind (soughtName name) with
      | some entry =>
        -- the name itself is new, so it comes before any that is the same but for case
        refine ⟨entry, find?_of_exact later named after, ?_, ?_⟩
        · rintro (exact | closed)
          · cases exact
          · rw [container?_add_of_not_opened closed, before] at after
            cases after
        · exact fun _ => (ContainerTable.mem_of_get? after).2
      | none =>
        refine ⟨grown, ?_, fun _ => ⟨kept, grows⟩, ?_⟩
        · rw [find?_of_chosen later named after (find?_names_add source first), kept]
        · intro opened
          have present := isSome_add_of_opened sources complete opened
          rw [after] at present
          cases present

end Index

def acronymSource : ParsedSource := ⟨"/api.rb".toList, [sampleClass "APIController" [sampleDef "x"]]⟩

def namespacedSource : ParsedSource :=
  ⟨"/a.rb".toList, [sampleClass "A" [sampleClass "ApiController" []], sampleClass "ApiCONTROLLER" []]⟩

def plainSource : ParsedSource := ⟨"/plain.rb".toList, [sampleClass "ApiController" [sampleDef "y"]]⟩

theorem lookup_stable_of_acronym :
    ∃ old new plain : Container,
      (Index.ofSources [acronymSource]).find? .classKind " ::ApiController".toList = some old ∧
      ((Index.ofSources [acronymSource]).add namespacedSource).find? .classKind
        " ::ApiController".toList = some new ∧
      ((Index.ofSources [acronymSource]).add plainSource).find? .classKind
        " ::ApiController".toList = some plain ∧
      old.Grows new ∧ new.qualifiedName = "APIController".toList ∧
      plain.qualifiedName = "ApiController".toList := by
  have sought : soughtName " ::ApiController".toList = "ApiController".toList := by decide
  have nonempty : soughtName " ::ApiController".toList ≠ [] := by decide
  obtain ⟨_, _, stable⟩ := Index.lookup_stable [acronymSource] .classKind nonempty
  have first : ((Index.ofSources [acronymSource]).find? .classKind " ::ApiController".toList).map
      (·.qualifiedName) = some "APIController".toList := by
    decide +kernel
  obtain ⟨old, found, named⟩ := Option.map_eq_some_iff.mp first
  obtain ⟨new, later, same, _⟩ := stable namespacedSource (by decide +kernel) old found
  obtain ⟨plain, instead, _, opened⟩ := stable plainSource (by decide +kernel) old found
  obtain ⟨_, grows⟩ := same (.inr (by decide +kernel))
  refine ⟨old, new, plain, found, later, instead, grows, grows.qualifiedName.trans named, ?_⟩
  exact (opened (by decide +kernel)).trans sought

end RouteReport
