import RouteReport.Proofs.Index.Statements

/-! An index only grows: whatever a further source says, each entry keeps its place and all that it
has, but for the visibility of its definitions. -/

namespace RouteReport

open Ruby (ContainerKind)

/-- A definition apart from its visibility. -/
def Method.unmarked (method : Method) : Method := { method with visibility := .publicMethod }

/-- A later state of a container. Its definitions may have got another visibility. -/
structure Container.Grows (old new : Container) : Prop where
  kind : new.kind = old.kind
  qualifiedName : new.qualifiedName = old.qualifiedName
  superclass : ∀ name, old.superclass = some name → new.superclass = some name
  includes : old.includes <+: new.includes
  files : old.files <+: new.files
  definitions : ∀ name,
    (old.definitionsOf name).map Method.unmarked <+: (new.definitionsOf name).map Method.unmarked

namespace Container

theorem Grows.refl (container : Container) : container.Grows container where
  kind := rfl
  qualifiedName := rfl
  superclass _ written := written
  includes := List.prefix_rfl
  files := List.prefix_rfl
  definitions _ := List.prefix_rfl

theorem Grows.trans {first second third : Container} (early : first.Grows second)
    (late : second.Grows third) : first.Grows third where
  kind := late.kind.trans early.kind
  qualifiedName := late.qualifiedName.trans early.qualifiedName
  superclass name written := late.superclass name (early.superclass name written)
  includes := early.includes.trans late.includes
  files := early.files.trans late.files
  definitions name := (early.definitions name).trans (late.definitions name)

theorem unmarked_setVisibility (container : Container) (method : Text) (visibility : Visibility)
    (name : Text) :
    ((container.setVisibility method visibility).definitionsOf name).map Method.unmarked =
      (container.definitionsOf name).map Method.unmarked := by
  unfold setVisibility definitionsOf
  induction container.definitions with
  | nil => rfl
  | cons definition rest ih =>
    by_cases marked : definition.name = method <;> by_cases asked : definition.name = name <;>
      simp_all [Method.unmarked]

end Container

theorem Fact.grows (fact : Fact) (container : Container) :
    container.Grows (fact.update container) := by
  cases fact with
  | opened => exact .refl container
  | inherits superclass =>
    refine { Container.Grows.refl container with superclass := ?_ }
    intro name written
    simp [update, written]
  | located file =>
    by_cases present : container.files.contains file = true
    · rw [update, if_pos present]
      exact .refl container
    · rw [update, if_neg present]
      exact { Container.Grows.refl container with files := List.prefix_append _ _ }
  | includes names =>
    exact { Container.Grows.refl container with includes := List.prefix_append _ _ }
  | defines method =>
    refine { Container.Grows.refl container with definitions := ?_ }
    intro name
    simp [update, Container.definitionsOf]
  | declares method visibility =>
    refine { Container.Grows.refl container with definitions := ?_ }
    intro name
    exact ⟨[], (List.append_nil _).trans
      (container.unmarked_setVisibility method visibility name).symm⟩

namespace Index

theorem names_prefix_apply (index : Index) (event : Event) (kind : ContainerKind) :
    (index.table kind).names <+: ((index.apply event).table kind).names := by
  rw [apply, table_change]
  split
  · rw [ContainerTable.names_change _ _ event.fact.update_qualifiedName]
    split
    · exact List.prefix_rfl
    · exact List.prefix_append _ _
  · exact List.prefix_rfl

theorem names_prefix_foldl (events : List Event) (index : Index) (kind : ContainerKind) :
    (index.table kind).names <+: ((events.foldl apply index).table kind).names := by
  induction events generalizing index with
  | nil => exact List.prefix_rfl
  | cons event rest ih => exact (names_prefix_apply index event kind).trans (ih (index.apply event))

variable {kind : ContainerKind} {name : Text} {old : Container}

theorem grows_apply {index : Index} (event : Event) (known : index.container? kind name = some old) :
    ∃ new, (index.apply event).container? kind name = some new ∧ old.Grows new := by
  rw [container?_apply]
  split
  · refine ⟨_, rfl, ?_⟩
    rw [known, Option.getD_some]
    exact event.fact.grows old
  · exact ⟨old, known, .refl old⟩

theorem grows_foldl (events : List Event) {index : Index}
    (known : index.container? kind name = some old) :
    ∃ new, (events.foldl apply index).container? kind name = some new ∧ old.Grows new := by
  induction events generalizing index old with
  | nil => exact ⟨old, known, .refl old⟩
  | cons event rest ih =>
    obtain ⟨next, present, early⟩ := grows_apply event known
    obtain ⟨new, last, late⟩ := ih present
    exact ⟨new, last, early.trans late⟩

/-- The index after a source, or after what of it can be read. -/
def add (index : Index) (source : ParsedSource) : Index :=
  (index.addStatements source.file source.statements).1

end Index

end RouteReport
