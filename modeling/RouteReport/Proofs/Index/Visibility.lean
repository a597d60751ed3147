import RouteReport.Proofs.Index.Sayings

/-! The visibility of every definition over a whole history of sources: the last symbol after it that
names it, else the keyword or the section it was written with. -/

namespace RouteReport

open Ruby (ContainerKind Node)

def Saying.symbolFor? (name : Text) : Saying → Option Visibility
  | .symbol other visibility => if other = name then some visibility else none
  | .definition _ => none

/-- The visibility of the last symbol for a name. -/
def lastSymbol? (name : Text) (sayings : List Saying) : Option Visibility :=
  sayings.reverse.findSome? (Saying.symbolFor? name)

/-- The definitions among some sayings, each with the visibility that the last symbol after it gives,
or with the one it was written with. -/
def recorded : List Saying → List Method
  | [] => []
  | .definition method :: later =>
    { method with visibility := (lastSymbol? method.name later).getD method.visibility } ::
      recorded later
  | .symbol _ _ :: later => recorded later

/-- What is said about one container in the course of some sources. -/
def sayingsAbout (kind : ContainerKind) (name : Text) (sources : List ParsedSource) : List Saying :=
  ((sources.flatMap (·.directStatements)).filter fun direct =>
    direct.body.kind = kind ∧ direct.body.name = name).flatMap (·.sayings)

def Saying.update (saying : Saying) (definitions : List Method) : List Method :=
  match saying with
  | .definition method => definitions ++ [method]
  | .symbol name visibility => definitions.map fun method =>
    if method.name == name then { method with visibility } else method

theorem lastSymbol?_append (name : Text) (sayings : List Saying) (saying : Saying) :
    lastSymbol? name (sayings ++ [saying]) =
      (saying.symbolFor? name <|> lastSymbol? name sayings) := by
  rw [lastSymbol?, List.reverse_append, List.reverse_singleton, List.singleton_append,
    List.findSome?_cons]
  cases saying.symbolFor? name <;> rfl

theorem recorded_append (sayings : List Saying) (saying : Saying) :
    recorded (sayings ++ [saying]) = saying.update (recorded sayings) := by
  induction sayings with
  | nil => cases saying <;> rfl
  | cons first rest ih =>
    cases first with
    | symbol name visibility => exact ih
    | definition method =>
      rw [List.cons_append, recorded, ih, lastSymbol?_append]
      cases saying with
      | definition last => rfl
      | symbol name visibility =>
        by_cases same : name = method.name
        · simp [Saying.update, recorded, Saying.symbolFor?, same]
        · have other : ¬ method.name = name := fun eq => same eq.symm
          simp [Saying.update, recorded, Saying.symbolFor?, same, other]

theorem recorded_eq_foldl (sayings : List Saying) :
    recorded sayings = sayings.foldl (fun definitions saying => saying.update definitions) [] := by
  induction sayings using List.reverseRecOn with
  | nil => rfl
  | append_singleton front last ih => rw [recorded_append, ih, List.foldl_append]; rfl

/-- The sayings about one container among tagged ones. -/
def sayingsIn (kind : ContainerKind) (name : Text) (tagged : List TaggedSaying) : List Saying :=
  tagged.filterMap fun (otherKind, otherName, saying) =>
    if otherKind = kind ∧ otherName = name then some saying else none

theorem sayingsIn_append (kind : ContainerKind) (name : Text) (first second : List TaggedSaying) :
    sayingsIn kind name (first ++ second) =
      sayingsIn kind name first ++ sayingsIn kind name second :=
  List.filterMap_append

theorem sayingsIn_tagged (kind : ContainerKind) (name : Text) (direct : List DirectStatement) :
    sayingsIn kind name (direct.flatMap DirectStatement.tagged) =
      (direct.filter fun statement =>
        statement.body.kind = kind ∧ statement.body.name = name).flatMap (·.sayings) := by
  induction direct with
  | nil => rfl
  | cons statement rest ih =>
    rw [List.flatMap_cons, sayingsIn_append, ih]
    by_cases about : statement.body.kind = kind ∧ statement.body.name = name
    · have all : sayingsIn kind name statement.tagged = statement.sayings := by
        simp [sayingsIn, DirectStatement.tagged, List.filterMap_map, about]
      simp [about, all]
    · have none_about : sayingsIn kind name statement.tagged = [] := by
        simp [sayingsIn, DirectStatement.tagged, List.filterMap_map, about]
      simp [about, none_about]

namespace Event

theorem filterMap_tagged?_singleton (event : Event) :
    [event].filterMap tagged? = event.tagged?.toList := by
  cases tagged : event.tagged? <;> simp [tagged]

theorem sayingsIn_other {event : Event} {kind : ContainerKind} {name : Text}
    (other : ¬(event.kind = kind ∧ event.name = name)) :
    sayingsIn kind name event.tagged?.toList = [] := by
  obtain ⟨eventKind, eventName, fact⟩ := event
  cases fact <;> simp [tagged?, sayingsIn, other]

end Event

namespace Index

def definitionsAt (index : Index) (kind : ContainerKind) (name : Text) : List Method :=
  ((index.container? kind name).map (·.definitions)).getD []

theorem definitions_getD (index : Index) (kind : ContainerKind) (name : Text) :
    ((index.container? kind name).getD (.new kind name)).definitions = index.definitionsAt kind name := by
  rw [definitionsAt]
  cases index.container? kind name <;> rfl

theorem definitionsAt_apply (index : Index) (event : Event) (kind : ContainerKind) (name : Text) :
    (index.apply event).definitionsAt kind name =
      (sayingsIn kind name event.tagged?.toList).foldl
        (fun definitions saying => saying.update definitions) (index.definitionsAt kind name) := by
  rcases event with ⟨eventKind, eventName, fact⟩
  rw [definitionsAt, container?_apply]
  by_cases about : eventKind = kind ∧ eventName = name
  · rcases about with ⟨rfl, rfl⟩
    have known := index.definitions_getD eventKind eventName
    cases fact with
    | located file =>
      by_cases present : file ∈ ((index.container? eventKind eventName).getD
          (.new eventKind eventName)).files <;>
        simp [Fact.update, Event.tagged?, sayingsIn, known, present]
    | defines method => simp [Fact.update, Event.tagged?, sayingsIn, Saying.update, known]
    | declares method visibility =>
      simp [Fact.update, Container.setVisibility, Event.tagged?, sayingsIn, Saying.update, known]
    | _ => simp [Fact.update, Event.tagged?, sayingsIn, known]
  · rw [if_neg about, Event.sayingsIn_other about]
    rfl

theorem definitionsAt_foldl (events : List Event) (kind : ContainerKind) (name : Text) :
    (events.foldl apply Index.empty).definitionsAt kind name =
      recorded (sayingsIn kind name (events.filterMap Event.tagged?)) := by
  rw [recorded_eq_foldl]
  induction events using List.reverseRecOn with
  | nil => cases kind <;> rfl
  | append_singleton front last ih =>
    rw [List.foldl_append, List.foldl_cons, List.foldl_nil, definitionsAt_apply, ih,
      List.filterMap_append, Event.filterMap_tagged?_singleton, sayingsIn_append, List.foldl_append]

end Index

theorem ParsedSource.tagged_events (source : ParsedSource)
    (complete : (traceOf source.file source.statements).fault = none) :
    source.events.filterMap Event.tagged? =
      source.directStatements.flatMap DirectStatement.tagged := by
  rcases Trace.join_complete complete with ⟨each, events⟩
  rw [ParsedSource.events, traceOf, events, directStatements, List.filterMap_flatMap,
    List.flatMap_map, List.flatMap_assoc]
  apply List.flatMap_congr
  intro statement member
  exact tagged_trace source.file [] statement (each _ (List.mem_map_of_mem member))

theorem tagged_sources (sources : List ParsedSource)
    (complete : ∀ source ∈ sources, (traceOf source.file source.statements).fault = none) :
    (sources.flatMap (·.events)).filterMap Event.tagged? =
      (sources.flatMap (·.directStatements)).flatMap DirectStatement.tagged := by
  rw [List.filterMap_flatMap, List.flatMap_assoc]
  apply List.flatMap_congr
  intro source member
  exact source.tagged_events (complete source member)

theorem Index.Built.definitions {sources : List ParsedSource} {index : Index}
    (built : Index.Built sources index) {kind : ContainerKind} {container : Container}
    (member : container ∈ index.table kind) :
    container.definitions = recorded (sayingsAbout kind container.qualifiedName sources) := by
  have known : index.definitionsAt kind container.qualifiedName = container.definitions := by
    rw [Index.definitionsAt, built.container?_of_mem member]
    rfl
  rw [← known, built.eq_foldl, Index.definitionsAt_foldl, tagged_sources sources built.complete,
    sayingsIn_tagged, sayingsAbout]

theorem exists_written_of_mem_recorded {sayings : List Saying} {method : Method}
    (member : method ∈ recorded sayings) :
    ∃ written, Saying.definition written ∈ sayings ∧
      method = { written with visibility := method.visibility } := by
  induction sayings with
  | nil => cases member
  | cons first rest ih =>
    cases first with
    | symbol name visibility =>
      rcases ih member with ⟨written, present, same⟩
      exact ⟨written, List.mem_cons_of_mem _ present, same⟩
    | definition written =>
      rcases List.mem_cons.mp member with rfl | later
      · exact ⟨written, List.mem_cons_self, rfl⟩
      · rcases ih later with ⟨other, present, same⟩
        exact ⟨other, List.mem_cons_of_mem _ present, same⟩

theorem DirectStatement.place_of_mem_sayings {direct : DirectStatement} {method : Method}
    (member : Saying.definition method ∈ direct.sayings) :
    method.ownerKind = direct.body.kind ∧ method.owner = direct.body.name ∧
      method.file = direct.body.file := by
  unfold sayings at member
  split at member
  · rw [Saying.definition.inj (List.mem_singleton.mp member)]
    exact ⟨rfl, rfl, rfl⟩
  · split at member
    · rcases List.mem_filterMap.mp member with ⟨arg, _, said⟩
      cases arg with
      | method text head =>
        rw [← Saying.definition.inj (Option.some.inj said)]
        exact ⟨rfl, rfl, rfl⟩
      | _ =>
        simp only [Body.argument, symbolSaying?] at said
        split at said
        · split at said <;> simp at said
        · cases said
    · cases member
  · cases member

theorem Index.Built.written {sources : List ParsedSource} {index : Index}
    (built : Index.Built sources index) (kind : ContainerKind) {container : Container}
    (member : container ∈ index.table kind) {method : Method}
    (defined : method ∈ container.definitions) :
    ∃ source ∈ sources, ∃ direct ∈ source.directStatements,
      direct.body.kind = kind ∧ direct.body.name = container.qualifiedName ∧
        method.ownerKind = direct.body.kind ∧ method.owner = direct.body.name ∧
        method.file = direct.body.file := by
  rw [built.definitions member] at defined
  rcases exists_written_of_mem_recorded defined with ⟨written, present, same⟩
  rcases List.mem_flatMap.mp present with ⟨direct, about, said⟩
  rcases List.mem_filter.mp about with ⟨listed, place⟩
  rcases List.mem_flatMap.mp listed with ⟨source, inSources, inSource⟩
  obtain ⟨inKind, named⟩ : direct.body.kind = kind ∧ direct.body.name = container.qualifiedName := by
    simpa using place
  have inBody := direct.place_of_mem_sayings said
  rw [same]
  exact ⟨source, inSources, direct, inSource, inKind, named, inBody⟩

theorem Index.Built.owner {sources : List ParsedSource} {index : Index}
    (built : Index.Built sources index) (kind : ContainerKind) {container : Container}
    (member : container ∈ index.table kind) {method : Method}
    (defined : method ∈ container.definitions) :
    method.ownerKind = kind ∧ method.owner = container.qualifiedName := by
  obtain ⟨_, _, direct, _, inKind, named, ownerKind, owner, _⟩ := built.written kind member defined
  exact ⟨ownerKind.trans inKind, owner.trans named⟩

/-- Every definition has the visibility of the last symbol after it for its name, said of its container
in this or a later source; else that of its own keyword, else of its section. Nothing but definitions
and keywords takes part in this. -/
theorem visibility_of_history {sources : List ParsedSource} {index : Index}
    (built : Index.Built sources index) {kind : ContainerKind} {container : Container}
    (member : container ∈ index.table kind) :
    container.definitions = recorded (sayingsAbout kind container.qualifiedName sources) ∧
      ∀ (body : Body) (before : List Node) (statement : Node) (after : List Node),
        IsNeutral statement →
          DirectStatement.sayings ⟨body, before, statement⟩ = [] ∧
            sectionBefore (before ++ statement :: after) = sectionBefore (before ++ after) :=
  ⟨built.definitions member,
    fun body before _ after neutral => silent_of_neutral neutral body before after⟩

def sampleDef (name : String) : Node := .method [] ⟨Utf8.encode name.toList, 1, 0⟩

def sampleCall (name : String) (args : List Node) : Node :=
  .call [] (Utf8.encode name.toList) args

def sampleClass (name : String) (body : List Node) : Node :=
  .container [] .classKind (Utf8.encode name.toList) none body

def sampleSources : List ParsedSource :=
  [⟨"/a.rb".toList, [sampleClass "A" [sampleCall "private" [], sampleDef "x",
      sampleClass "B" [sampleCall "public" [], sampleDef "y"], sampleDef "z",
      sampleCall "protected" [sampleDef "w"]]]⟩,
    ⟨"/b.rb".toList, [sampleClass "A" [sampleDef "v",
      sampleCall "public" [.other (Utf8.encode ":x".toList)]]]⟩]

theorem built_sample : Index.Built sampleSources (.ofSources sampleSources) :=
  Index.built_ofSources (by decide +kernel)

theorem visibility_of_sample :
    Index.Built sampleSources (.ofSources sampleSources) ∧
      ∃ container ∈ (Index.ofSources sampleSources).table .classKind,
        container.definitions.map (fun method => (method.name, method.visibility)) =
          [("x".toList, .publicMethod), ("z".toList, .privateMethod),
            ("w".toList, .protectedMethod), ("v".toList, .publicMethod)] := by
  have member : ∃ container ∈ (Index.ofSources sampleSources).table .classKind,
      container.qualifiedName = "A".toList := by
    decide +kernel
  rcases member with ⟨container, member, named⟩
  refine ⟨built_sample, container, member, ?_⟩
  rw [(visibility_of_history built_sample member).1, named]
  decide +kernel

end RouteReport
