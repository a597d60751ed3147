import RouteReport.Proofs.Index.Growth
import RouteReport.Proofs.Index.Visibility

namespace RouteReport

open Ruby (ContainerKind)

/-- A definition after some sayings about its container. -/
def Method.marked (sayings : List Saying) (method : Method) : Method :=
  { method with visibility := (lastSymbol? method.name sayings).getD method.visibility }

def Container.marked (sayings : List Saying) (container : Container) : Container :=
  { container with definitions := container.definitions.map (Method.marked sayings) }

/-- The container has all that the fact would add to it. A symbol adds nothing to any. -/
def Fact.AddsNothing (container : Container) : Fact → Prop
  | .opened => True
  | .inherits _ => container.superclass ≠ none
  | .located file => file ∈ container.files
  | .includes names => names = []
  | .defines _ => False
  | .declares _ _ => True

/-- The container that the event is about is there, with all that the event would add to it. -/
def Event.AddsNothing (index : Index) (event : Event) : Prop :=
  ∃ container, index.container? event.kind event.name = some container ∧
    event.fact.AddsNothing container

/-- The events add nothing, and the last symbols among them say what is already so. -/
structure Index.Settled (index : Index) (events : List Event) : Prop where
  adds_nothing : ∀ event ∈ events, event.AddsNothing index
  marks : ∀ kind name container, index.container? kind name = some container →
    ∀ definition ∈ container.definitions, ∀ visibility,
      lastSymbol? definition.name (sayingsIn kind name (events.filterMap Event.tagged?)) =
          some visibility →
        definition.visibility = visibility

theorem Method.marked_symbol (sayings : List Saying) (name : Text) (visibility : Visibility)
    (method : Method) :
    method.marked (sayings ++ [.symbol name visibility]) =
      if (method.marked sayings).name == name then { method.marked sayings with visibility }
      else method.marked sayings := by
  rw [marked, lastSymbol?_append, Saying.symbolFor?]
  by_cases same : name = method.name
  · simp [marked, same]
  · have other : ¬ method.name = name := fun eq => same eq.symm
    simp [marked, same, other]

theorem Method.marked_eq_self_iff {method : Method} {sayings : List Saying} :
    method.marked sayings = method ↔
      ∀ visibility, lastSymbol? method.name sayings = some visibility →
        method.visibility = visibility := by
  obtain ⟨name, kind, owner, visibility, params, file, line⟩ := method
  cases last : lastSymbol? name sayings with
  | none => simp [marked, last]
  | some said => simp [marked, last, eq_comm]

namespace Container

theorem marked_nil (container : Container) : container.marked [] = container := by
  have each : Method.marked [] = id := rfl
  rw [marked, each, List.map_id]

theorem marked_eq_self_iff {container : Container} {sayings : List Saying} :
    container.marked sayings = container ↔
      ∀ definition ∈ container.definitions, ∀ visibility,
        lastSymbol? definition.name sayings = some visibility → definition.visibility = visibility := by
  simp only [← Method.marked_eq_self_iff]
  constructor
  · intro same
    have definitions : container.definitions.map (Method.marked sayings) =
        container.definitions.map id := by
      rw [List.map_id]
      exact congrArg Container.definitions same
    exact List.map_inj_left.mp definitions
  · intro same
    rw [marked, List.map_congr_left same, List.map_id']

end Container

theorem Event.update_marked {event : Event} {container : Container} (sayings : List Saying)
    (nothing : event.fact.AddsNothing container) :
    event.fact.update (container.marked sayings) =
      container.marked (sayings ++ sayingsIn event.kind event.name event.tagged?.toList) := by
  obtain ⟨kind, name, fact⟩ := event
  cases fact with
  | opened => simp [Fact.update, tagged?, sayingsIn]
  | inherits superclass =>
    obtain ⟨written, has⟩ := Option.ne_none_iff_exists'.mp nothing
    simp [Fact.update, tagged?, sayingsIn, Container.marked, has]
  | located file =>
    have listed : file ∈ container.files := nothing
    simp [Fact.update, tagged?, sayingsIn, Container.marked, listed]
  | includes names =>
    have empty : names = [] := nothing
    simp [Fact.update, tagged?, sayingsIn, Container.marked, empty]
  | defines method => cases nothing
  | declares method visibility =>
    simp [Fact.update, Container.setVisibility, tagged?, sayingsIn, Container.marked,
      Method.marked_symbol]

theorem Fact.addsNothing_of_grows {fact : Fact} {container between : Container}
    (early : container.Grows between) (late : (fact.update between).Grows container) :
    fact.AddsNothing container := by
  cases fact with
  | opened => trivial
  | inherits superclass =>
    obtain ⟨written, has⟩ : ∃ written, (between.superclass <|> some superclass) = some written := by
      cases between.superclass <;> exact ⟨_, rfl⟩
    have kept : container.superclass = some written := late.superclass written has
    simp [AddsNothing, kept]
  | located file =>
    have listed : file ∈ ((Fact.located file).update between).files := by
      by_cases present : file ∈ between.files <;> simp [update, present]
    exact late.files.subset listed
  | includes names =>
    have more := late.includes.length_le
    have less := early.includes.length_le
    simp only [update, List.length_append] at more
    exact List.length_eq_zero_iff.mp (by omega)
  | defines method =>
    have more := (late.definitions method.name).length_le
    have less := (early.definitions method.name).length_le
    simp [update, Container.definitionsOf] at more less
    omega
  | declares method visibility => trivial

namespace Index

variable {index : Index} {events : List Event}

theorem addsNothing_of_unchanged (unchanged : events.foldl apply index = index) {event : Event}
    (member : event ∈ events) : event.AddsNothing index := by
  obtain ⟨front, back, rfl⟩ := List.append_of_mem member
  rw [List.foldl_append, List.foldl_cons] at unchanged
  have opened := container?_apply (front.foldl apply index) event event.kind event.name
  rw [if_pos ⟨rfl, rfl⟩] at opened
  obtain ⟨container, known, late⟩ := grows_foldl back opened
  rw [unchanged] at known
  obtain ⟨between, present, early⟩ := grows_foldl front known
  rw [present, Option.getD_some] at late
  exact ⟨container, known, Fact.addsNothing_of_grows early late⟩

theorem names_foldl (nothing : ∀ event ∈ events, event.AddsNothing index) (kind : ContainerKind) :
    ((events.foldl apply index).table kind).names = (index.table kind).names := by
  induction events using List.reverseRecOn with
  | nil => rfl
  | append_singleton front event ih =>
    have before := ih fun other member => nothing other (List.mem_append_left _ member)
    obtain ⟨container, known, _⟩ := nothing event (List.mem_append_right _ List.mem_cons_self)
    obtain ⟨listed, named⟩ := ContainerTable.mem_of_get? known
    rw [List.foldl_append, List.foldl_cons, List.foldl_nil, apply, table_change]
    split
    · next same =>
      have there : event.name ∈ ((front.foldl apply index).table kind).names := by
        rw [before, ← same]
        exact List.mem_map.mpr ⟨container, listed, named⟩
      rw [ContainerTable.names_change _ _ event.fact.update_qualifiedName, if_pos there, before]
    · exact before

theorem container?_foldl (nothing : ∀ event ∈ events, event.AddsNothing index)
    (kind : ContainerKind) (name : Text) :
    (events.foldl apply index).container? kind name =
      (index.container? kind name).map
        (Container.marked (sayingsIn kind name (events.filterMap Event.tagged?))) := by
  induction events using List.reverseRecOn with
  | nil =>
    have marks : Container.marked (sayingsIn kind name []) = id := funext Container.marked_nil
    rw [List.filterMap_nil, marks, Option.map_id, List.foldl_nil, id]
  | append_singleton front event ih =>
    have before := ih fun other member => nothing other (List.mem_append_left _ member)
    obtain ⟨container, known, adds⟩ := nothing event (List.mem_append_right _ List.mem_cons_self)
    rw [List.foldl_append, List.foldl_cons, List.foldl_nil, container?_apply, before,
      List.filterMap_append, Event.filterMap_tagged?_singleton, sayingsIn_append]
    split
    · next about =>
      obtain ⟨rfl, rfl⟩ := about
      rw [known, Option.map_some, Option.getD_some, Event.update_marked _ adds, Option.map_some]
    · next other =>
      rw [Event.sayingsIn_other other, List.append_nil]

theorem foldl_eq_self_iff (distinct : ∀ kind, (index.table kind).names.Nodup) :
    events.foldl apply index = index ↔ index.Settled events := by
  constructor
  · intro unchanged
    have nothing : ∀ event ∈ events, event.AddsNothing index :=
      fun _ member => addsNothing_of_unchanged unchanged member
    refine ⟨nothing, ?_⟩
    intro kind name container known
    have run := container?_foldl nothing kind name
    rw [unchanged, known, Option.map_some] at run
    exact Container.marked_eq_self_iff.mp (Option.some.inj run).symm
  · intro settled
    have tables : ∀ kind, (events.foldl apply index).table kind = index.table kind := by
      intro kind
      refine ContainerTable.eq_of_get? (names_foldl settled.adds_nothing kind) (distinct kind) ?_
      intro name
      refine (container?_foldl settled.adds_nothing kind name).trans ?_
      cases known : index.container? kind name with
      | none => exact known.symm
      | some container =>
        rw [Option.map_some, Container.marked_eq_self_iff.mpr (settled.marks kind name container known)]
        exact known.symm
    exact congrArg₂ Index.mk (tables .classKind) (tables .moduleKind)

theorem settled_of_heading {events : List Event}
    (opening : ∀ event ∈ events, event.fact = .opened ∧
      (index.container? event.kind event.name).isSome = true) : index.Settled events where
  adds_nothing event member := by
    obtain ⟨opened, there⟩ := opening event member
    obtain ⟨container, known⟩ := Option.isSome_iff_exists.mp there
    refine ⟨container, known, ?_⟩
    rw [opened]
    trivial
  marks kind name container _ definition _ visibility said := by
    have silent : events.filterMap Event.tagged? = [] := by
      rw [List.filterMap_eq_nil_iff]
      intro event member
      simp [Event.tagged?, (opening event member).1]
    rw [silent] at said
    cases said

end Index

end RouteReport
