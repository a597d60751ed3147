import Mathlib.Data.List.Nodup
import RouteReport.Index.Build

namespace RouteReport

open Ruby (ContainerKind)

theorem Fact.update_qualifiedName (fact : Fact) (container : Container) :
    (fact.update container).qualifiedName = container.qualifiedName := by
  cases fact with
  | located file => by_cases present : file ∈ container.files <;> simp [Fact.update, present]
  | _ => rfl

namespace ContainerTable

def names (table : ContainerTable) : List Text := table.map (·.qualifiedName)

theorem mem_of_get? {table : ContainerTable} {name : Text} {entry : Container}
    (found : table.get? name = some entry) : entry ∈ table ∧ entry.qualifiedName = name :=
  ⟨List.mem_of_find?_eq_some found, by simpa using List.find?_some found⟩

theorem get?_of_mem {table : ContainerTable} (distinct : table.names.Nodup) {entry : Container}
    (member : entry ∈ table) : table.get? entry.qualifiedName = some entry := by
  induction table with
  | nil => cases member
  | cons first rest ih =>
    rcases List.nodup_cons.mp distinct with ⟨fresh, distinct⟩
    rcases List.mem_cons.mp member with rfl | later
    · simp [get?]
    · have other : first.qualifiedName ≠ entry.qualifiedName := by
        intro same
        exact fresh (List.mem_map.mpr ⟨entry, later, same.symm⟩)
      simpa [get?, other] using ih distinct later

theorem eq_filterMap_get? {table : ContainerTable} (distinct : table.names.Nodup) :
    table = table.names.filterMap table.get? := by
  have found : ∀ entry ∈ table, some entry = table.get? entry.qualifiedName :=
    fun _ member => (get?_of_mem distinct member).symm
  calc
    table = table.filterMap some := List.filterMap_some.symm
    _ = table.filterMap fun entry => table.get? entry.qualifiedName := List.filterMap_congr found
    _ = table.names.filterMap table.get? := by rw [names, List.filterMap_map, Function.comp_def]

theorem eq_of_get? {first second : ContainerTable} (names : first.names = second.names)
    (distinct : second.names.Nodup) (entries : ∀ name, first.get? name = second.get? name) :
    first = second := by
  calc
    first = first.names.filterMap first.get? := eq_filterMap_get? (names ▸ distinct)
    _ = second.names.filterMap second.get? := by rw [names, funext entries]
    _ = second := (eq_filterMap_get? distinct).symm

theorem lookup?_mem {table : ContainerTable} {name : Text} {entry : Container}
    (found : table.lookup? name = some entry) : entry ∈ table := by
  simp only [lookup?] at found
  split at found
  · cases found
  · cases exactly : table.get? ((name.trim.afterPrefix? scopeMark).getD name.trim) with
    | some hit =>
      have same : hit = entry := by simpa [exactly] using found
      exact same ▸ (mem_of_get? exactly).1
    | none =>
      rw [exactly] at found
      exact List.mem_of_find?_eq_some found

section Change

variable (kind : ContainerKind) (name : Text) {update : Container → Container}
  (keepsName : ∀ container, (update container).qualifiedName = container.qualifiedName)

theorem change_cons (entry : Container) (rest : ContainerTable) :
    change (entry :: rest) kind name update =
      if entry.qualifiedName = name then update entry :: rest
      else entry :: change rest kind name update := by
  simp only [change, beq_iff_eq]

include keepsName

theorem get?_change (table : ContainerTable) (other : Text) :
    (table.change kind name update).get? other =
      if name = other then some (update ((table.get? name).getD (.new kind name)))
      else table.get? other := by
  induction table with
  | nil =>
    by_cases same : name = other <;>
      simp [change, get?, keepsName, Container.new, same]
  | cons entry rest ih =>
    rw [change_cons]
    by_cases here : entry.qualifiedName = name
    · by_cases same : name = other
      · simp [get?, keepsName, here, same]
      · simp [get?, keepsName, here, same]
    · rw [if_neg here]
      by_cases first : entry.qualifiedName = other
      · have different : name ≠ other := fun same => here (first.trans same.symm)
        simp [get?, first, different]
      · simpa [get?, here, first] using ih

theorem names_change (table : ContainerTable) :
    (table.change kind name update).names =
      if name ∈ table.names then table.names else table.names ++ [name] := by
  induction table with
  | nil => simp [change, names, keepsName, Container.new]
  | cons entry rest ih =>
    rw [change_cons]
    by_cases here : entry.qualifiedName = name
    · simp [names, keepsName, here]
    · have different : ¬ name = entry.qualifiedName := fun same => here same.symm
      have grown : names (entry :: change rest kind name update) =
          entry.qualifiedName :: (change rest kind name update).names := rfl
      rw [if_neg here, grown, ih]
      by_cases known : name ∈ names rest
      · have member : name ∈ names (entry :: rest) := List.mem_cons_of_mem _ known
        rw [if_pos known, if_pos member]
        rfl
      · have fresh : name ∉ names (entry :: rest) := by
          simpa [names, different] using known
        rw [if_neg known, if_neg fresh]
        rfl

theorem nodup_change {table : ContainerTable} (distinct : table.names.Nodup) :
    (table.change kind name update).names.Nodup := by
  rw [names_change kind name keepsName]
  split
  · exact distinct
  · rename_i fresh
    exact List.nodup_append.mpr ⟨distinct, List.nodup_singleton name, by
      intro old member new last same
      exact fresh (List.mem_singleton.mp last ▸ same ▸ member)⟩

end Change

end ContainerTable

namespace Index

/-- The table of a kind. -/
def table (index : Index) : ContainerKind → ContainerTable
  | .classKind => index.classes
  | .moduleKind => index.modules

def container? (index : Index) (kind : ContainerKind) (name : Text) : Option Container :=
  (index.table kind).get? name

theorem table_change (index : Index) (kind other : ContainerKind) (name : Text)
    (update : Container → Container) :
    (index.change kind name update).table other =
      if kind = other then (index.table other).change kind name update else index.table other := by
  cases kind <;> cases other <;> rfl

theorem container?_apply (index : Index) (event : Event) (kind : ContainerKind) (name : Text) :
    (index.apply event).container? kind name =
      if event.kind = kind ∧ event.name = name then
        some (event.fact.update ((index.container? kind name).getD (.new kind name)))
      else index.container? kind name := by
  rw [container?, apply, table_change]
  by_cases sameKind : event.kind = kind
  · rw [if_pos sameKind, ContainerTable.get?_change _ _ event.fact.update_qualifiedName]
    by_cases sameName : event.name = name
    · simp [sameKind, sameName, container?]
    · simp [sameName, container?]
  · simp [sameKind, container?]

theorem distinct_apply (index : Index) (event : Event)
    (distinct : ∀ kind, (index.table kind).names.Nodup) (kind : ContainerKind) :
    ((index.apply event).table kind).names.Nodup := by
  rw [apply, table_change]
  split
  · exact ContainerTable.nodup_change _ _ event.fact.update_qualifiedName (distinct kind)
  · exact distinct kind

theorem distinct_foldl (events : List Event) (kind : ContainerKind) :
    ((events.foldl apply Index.empty).table kind).names.Nodup := by
  have run : ∀ index : Index, (∀ kind, (index.table kind).names.Nodup) →
      ∀ kind, ((events.foldl apply index).table kind).names.Nodup := by
    induction events with
    | nil => intro index distinct; exact distinct
    | cons event rest ih =>
      intro index distinct
      exact ih (index.apply event) (distinct_apply index event distinct)
  exact run Index.empty (fun kind => by cases kind <;> exact List.nodup_nil) kind

end Index

end RouteReport
