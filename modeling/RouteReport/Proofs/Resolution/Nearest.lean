import RouteReport.Proofs.Resolution.Parents

/-! The search for a method is the search for the nearest definition along the ancestors of a class,
and it ends whatever the superclass clauses say. -/

namespace RouteReport

open Ruby (ContainerKind)

/-- The classes from one on, each the parent of the one before it, up to one that has no parent or
whose parent is already met. -/
inductive Lineage (app : App) : List Container → Container → List Container → Prop where
  | root {met : List Container} {container : Container}
      (orphan : app.parent? container = none) :
      Lineage app met container [container]
  | closed {met : List Container} {container parent : Container}
      (inherits : app.parent? container = some parent) (again : parent ∈ container :: met) :
      Lineage app met container [container]
  | next {met chain : List Container} {container parent : Container}
      (inherits : app.parent? container = some parent) (fresh : parent ∉ container :: met)
      (later : Lineage app (container :: met) parent chain) :
      Lineage app met container (container :: chain)

/-- The loop of the search: the names already visited, the class at hand, the classes that it goes on
to look at, and what it comes to. -/
inductive Walk (app : App) (name : Text) :
    List Text → Container → List Container → Search → Prop where
  | found {visited : List Text} {container : Container} {method : Method}
      (fresh : container.qualifiedName ∉ visited)
      (hit : app.definition? name container = some method) :
      Walk app name visited container [container] (.found method)
  | absent {visited : List Text} {container : Container}
      (fresh : container.qualifiedName ∉ visited) (miss : app.definition? name container = none)
      (orphan : app.parent? container = none) :
      Walk app name visited container [container] .absent
  | again {visited : List Text} {container : Container}
      (met : container.qualifiedName ∈ visited) :
      Walk app name visited container [] (.cycle container.qualifiedName)
  | next {visited : List Text} {container parent : Container} {looked : List Container}
      {search : Search}
      (fresh : container.qualifiedName ∉ visited) (miss : app.definition? name container = none)
      (inherits : app.parent? container = some parent)
      (later : Walk app name (container.qualifiedName :: visited) parent looked search) :
      Walk app name visited container (container :: looked) search

structure Unvisited (app : App) (met : List Container) (unvisited : List Text) : Prop where
  distinct : unvisited.Nodup
  mem_iff : ∀ name, name ∈ unvisited ↔
    name ∈ app.index.classes.names ∧ name ∉ met.map (·.qualifiedName)

theorem length_erase_lt {names : List Text} {name : Text} (member : name ∈ names) :
    (names.erase name).length < names.length := by
  have erased := List.length_erase_of_mem member
  have positive := List.length_pos_of_mem member
  omega

namespace Unvisited

variable {app : App} {met : List Container} {unvisited : List Text}

theorem start {sources : List ParsedSource} (built : Index.Built sources app.index) :
    Unvisited app [] app.index.classes.names :=
  ⟨built.distinct .classKind, by simp⟩

theorem visit (rest : Unvisited app met unvisited) (container : Container) :
    Unvisited app (container :: met) (unvisited.erase container.qualifiedName) := by
  refine ⟨rest.distinct.erase _, ?_⟩
  intro name
  rw [rest.distinct.mem_erase_iff, rest.mem_iff name]
  simp only [List.map_cons, List.mem_cons, not_or]
  tauto

end Unvisited

theorem Index.Built.eq_of_qualifiedName {sources : List ParsedSource} {index : Index}
    (built : Index.Built sources index) (kind : ContainerKind) {first second : Container}
    (inFirst : first ∈ index.table kind) (inSecond : second ∈ index.table kind)
    (same : first.qualifiedName = second.qualifiedName) : first = second := by
  have found := built.container?_of_mem inFirst
  rw [same, built.container?_of_mem inSecond] at found
  exact (Option.some.inj found).symm

section Search

variable {app : App} {name base : Text} {unvisited : List Text} {container : Container}
  {m : Type → Type} [Monad m] [LawfulMonad m]

theorem along_of_mem (fresh : container.qualifiedName ∈ unvisited) :
    Search.along (app.lookups base : Lookups m) name unvisited container =
      match app.definition? name container with
      | some method => pure (.found method)
      | none => match app.parent? container with
        | some parent =>
          Search.along (app.lookups base) name (unvisited.erase container.qualifiedName) parent
        | none => pure .absent := by
  rw [Search.along, dif_pos fresh, App.definition?]
  cases own : container.method? name with
  | some method => simp
  | none =>
    simp only [App.lookups_mixedIn?, App.lookups_parent?, pure_bind]
    cases container.includes.reverse.findSome? fun included =>
        (app.moduleIn? included container.qualifiedName).bind (·.method? name) with
    | some method => simp
    | none => cases app.parent? container <;> simp

omit [LawfulMonad m] in
theorem along_of_not_mem (met : container.qualifiedName ∉ unvisited) :
    Search.along (app.lookups base : Lookups m) name unvisited container =
      pure (.cycle container.qualifiedName) := by
  rw [Search.along, dif_neg met]

end Search

namespace Lineage

variable {app : App} {met chain : List Container} {container : Container}

theorem unique (first : Lineage app met container chain) {other : List Container}
    (second : Lineage app met container other) : chain = other := by
  induction first generalizing other with
  | root orphan =>
    cases second with
    | root _ => rfl
    | closed _ _ => rfl
    | next inherits _ _ => simp [orphan] at inherits
  | closed inherits again =>
    cases second with
    | root _ => rfl
    | closed _ _ => rfl
    | next otherInherits fresh _ =>
      have same := Option.some.inj (inherits.symm.trans otherInherits)
      exact absurd (same ▸ again) fresh
  | next inherits fresh _ ih =>
    cases second with
    | root orphan => simp [inherits] at orphan
    | closed otherInherits again =>
      have same := Option.some.inj (otherInherits.symm.trans inherits)
      exact absurd (same ▸ again) fresh
    | next otherInherits _ later =>
      have same := Option.some.inj (otherInherits.symm.trans inherits)
      subst same
      rw [ih later]

theorem subset (lineage : Lineage app met container chain)
    (member : container ∈ app.index.classes) : chain ⊆ app.index.classes := by
  induction lineage with
  | root _ => simpa using member
  | closed _ _ => simpa using member
  | next inherits _ _ ih => exact List.cons_subset.mpr ⟨member, ih (App.parent?_mem inherits)⟩

theorem disjoint (lineage : Lineage app met container chain) (fresh : container ∉ met) :
    ∀ other ∈ chain, other ∉ met := by
  induction lineage with
  | root _ => simpa using fresh
  | closed _ _ => simpa using fresh
  | next _ parentFresh _ ih =>
    intro other member
    rcases List.mem_cons.mp member with rfl | later
    · exact fresh
    · exact fun known => ih parentFresh other later (List.mem_cons_of_mem _ known)

theorem nodup (lineage : Lineage app met container chain) : chain.Nodup := by
  induction lineage with
  | root _ => exact List.nodup_singleton _
  | closed _ _ => exact List.nodup_singleton _
  | next _ parentFresh later ih =>
    refine List.nodup_cons.mpr ⟨?_, ih⟩
    intro again
    exact later.disjoint parentFresh _ again List.mem_cons_self

end Lineage

section Built

variable {app : App} {sources : List ParsedSource} (built : Index.Built sources app.index)

include built

theorem qualifiedName_mem_iff {met : List Container} (known : met ⊆ app.index.classes)
    {container : Container} (member : container ∈ app.index.classes) :
    container.qualifiedName ∈ met.map (·.qualifiedName) ↔ container ∈ met := by
  constructor
  · intro named
    rcases List.mem_map.mp named with ⟨other, inMet, same⟩
    have equal : other = container :=
      built.eq_of_qualifiedName .classKind (known inMet) member same
    exact equal ▸ inMet
  · exact List.mem_map_of_mem

theorem Unvisited.qualifiedName_mem_iff {met : List Container} {unvisited : List Text}
    (rest : Unvisited app met unvisited) (known : met ⊆ app.index.classes) {container : Container}
    (member : container ∈ app.index.classes) :
    container.qualifiedName ∈ unvisited ↔ container ∉ met := by
  rw [rest.mem_iff, RouteReport.qualifiedName_mem_iff built known member]
  exact and_iff_right (List.mem_map_of_mem member)

theorem exists_lineage {met : List Container} (known : met ⊆ app.index.classes)
    {unvisited : List Text} (rest : Unvisited app met unvisited) {container : Container}
    (member : container ∈ app.index.classes) (fresh : container ∉ met) :
    ∃ chain, Lineage app met container chain := by
  -- Going on to a parent that is not met leaves one class less to visit.
  induction size : unvisited.length using Nat.strongRecOn
    generalizing met unvisited container with
  | ind size ih =>
    cases inherits : app.parent? container with
    | none => exact ⟨_, .root inherits⟩
    | some parent =>
      by_cases again : parent ∈ container :: met
      · exact ⟨_, .closed inherits again⟩
      · have unseen := (rest.qualifiedName_mem_iff built known member).mpr fresh
        obtain ⟨chain, later⟩ := ih _ (size ▸ length_erase_lt unseen)
          (List.cons_subset.mpr ⟨member, known⟩) (rest.visit container) (App.parent?_mem inherits)
          again rfl
        exact ⟨_, .next inherits again later⟩

theorem exists_walk (name : Text) {met : List Container} (known : met ⊆ app.index.classes)
    {unvisited : List Text} (rest : Unvisited app met unvisited) {container : Container}
    (member : container ∈ app.index.classes) :
    ∃ looked search, Walk app name (met.map (·.qualifiedName)) container looked search ∧
      ∀ (base : Text) (m : Type → Type) [Monad m] [LawfulMonad m],
        Search.along (app.lookups base : Lookups m) name unvisited container = pure search := by
  induction size : unvisited.length using Nat.strongRecOn
    generalizing met unvisited container with
  | ind size ih =>
    by_cases unseen : container.qualifiedName ∈ unvisited
    · have fresh := ((rest.mem_iff _).mp unseen).2
      cases own : app.definition? name container with
      | some method =>
        refine ⟨_, _, .found fresh own, ?_⟩
        intro base m _ _
        rw [along_of_mem unseen, own]
      | none =>
        cases inherits : app.parent? container with
        | none =>
          refine ⟨_, _, .absent fresh own inherits, ?_⟩
          intro base m _ _
          simp only [along_of_mem unseen, own, inherits]
        | some parent =>
          obtain ⟨looked, search, later, result⟩ := ih _ (size ▸ length_erase_lt unseen)
            (List.cons_subset.mpr ⟨member, known⟩) (rest.visit container)
            (App.parent?_mem inherits) rfl
          refine ⟨_, _, .next fresh own inherits later, ?_⟩
          intro base m _ _
          simp only [along_of_mem unseen, own, inherits]
          exact result base m
    · have again : container ∈ met := by
        by_contra fresh
        exact unseen ((rest.qualifiedName_mem_iff built known member).mpr fresh)
      refine ⟨_, _, .again (List.mem_map_of_mem again), ?_⟩
      intro base m _ _
      exact along_of_not_mem unseen

theorem Lineage.walk {met chain looked : List Container} {container : Container} {name : Text}
    {search : Search} (lineage : Lineage app met container chain)
    (walk : Walk app name (met.map (·.qualifiedName)) container looked search)
    (known : met ⊆ app.index.classes) (member : container ∈ app.index.classes)
    (fresh : container ∉ met) :
    looked <+: chain ∧ search.method? = chain.findSome? (app.definition? name) := by
  induction lineage generalizing looked search with
  | root orphan =>
    cases walk with
    | found _ hit => simp [hit, Search.method?]
    | absent _ miss _ => simp [miss, Search.method?]
    | again visited => exact absurd ((qualifiedName_mem_iff built known member).mp visited) fresh
    | next _ _ inherits _ => simp [orphan] at inherits
  | closed inherits parentMet =>
    cases walk with
    | found _ hit => simp [hit, Search.method?]
    | absent _ _ orphan => simp [inherits] at orphan
    | again visited => exact absurd ((qualifiedName_mem_iff built known member).mp visited) fresh
    | next _ miss otherInherits later =>
      have same := Option.some.inj (otherInherits.symm.trans inherits)
      subst same
      -- The parent is visited, so the loop goes one round more and looks at nothing in it.
      have visited := List.mem_map_of_mem (f := (·.qualifiedName)) parentMet
      cases later with
      | again _ => simp [miss, Search.method?]
      | found unvisited _ => exact absurd visited unvisited
      | absent unvisited _ _ => exact absurd visited unvisited
      | next unvisited _ _ _ => exact absurd visited unvisited
  | next inherits parentFresh _ ih =>
    cases walk with
    | found _ hit => simp [hit, Search.method?]
    | absent _ _ orphan => simp [inherits] at orphan
    | again visited => exact absurd ((qualifiedName_mem_iff built known member).mp visited) fresh
    | next _ miss otherInherits later =>
      have same := Option.some.inj (otherInherits.symm.trans inherits)
      subst same
      obtain ⟨starts, nearest⟩ := ih later (List.cons_subset.mpr ⟨member, known⟩)
        (App.parent?_mem inherits) parentFresh
      refine ⟨(List.prefix_cons_inj _).mpr starts, ?_⟩
      rw [nearest, List.findSome?_cons, miss]

theorem Lineage.names_nodup {met chain : List Container} {container : Container}
    (lineage : Lineage app met container chain) (member : container ∈ app.index.classes) :
    (chain.map (·.qualifiedName)).Nodup := by
  apply lineage.nodup.map_on
  intro first inFirst second inSecond same
  have known := lineage.subset member
  exact built.eq_of_qualifiedName .classKind (known inFirst) (known inSecond) same

/-- The search for a method ends, having looked at a class at most once, at the first definition along
the lineage: of a class its own, or else that of its last included module that has one. -/
theorem nearest_definition {container : Container} (member : container ∈ app.index.classes)
    (name : Text) :
    ∃ chain looked search,
      Lineage app [] container chain ∧ (∀ other, Lineage app [] container other → other = chain) ∧
        chain ⊆ app.index.classes ∧ (chain.map (·.qualifiedName)).Nodup ∧
        Walk app name [] container looked search ∧ looked <+: chain ∧
        (∀ (base : Text) (m : Type → Type) [Monad m] [LawfulMonad m],
          (app.lookups base : Lookups m).method? container name = pure search) ∧
        search.method? = chain.findSome? (app.definition? name) ∧
        ∀ method, search.method? = some method → method.name = name ∧
          ∃ ancestor ∈ chain, method.owner = ancestor.qualifiedName ∨
            ∃ included ∈ ancestor.includes, ∃ mixin ∈ app.index.modules,
              app.moduleIn? included ancestor.qualifiedName = some mixin ∧
                method.owner = mixin.qualifiedName := by
  have none_met : [] ⊆ app.index.classes := List.nil_subset _
  have fresh : container ∉ [] := List.not_mem_nil
  have rest := Unvisited.start built
  rcases exists_lineage built none_met rest member fresh with ⟨chain, lineage⟩
  rcases exists_walk built name none_met rest member with ⟨looked, search, walk, result⟩
  rcases lineage.walk built walk none_met member fresh with ⟨starts, nearest⟩
  have known := lineage.subset member
  refine ⟨chain, looked, search, lineage, fun _ other => other.unique lineage, known,
    lineage.names_nodup built member, walk, starts, result, nearest, ?_⟩
  intro method found
  rw [nearest] at found
  rcases List.exists_of_findSome?_eq_some found with ⟨ancestor, inChain, hit⟩
  rcases App.definition?_owner built (known inChain) hit with ⟨named, owned⟩
  exact ⟨named, ancestor, inChain, owned⟩

end Built

def ringSources : List ParsedSource :=
  [⟨"/a.rb".toList, [
    .container [] .classKind (Utf8.encode "AController".toList)
      (some (Utf8.encode "BController".toList)) [],
    .container [] .classKind (Utf8.encode "BController".toList)
      (some (Utf8.encode "AController".toList))
      [sampleCall "include" [.constant (Utf8.encode "M".toList)]],
    .container [] .moduleKind (Utf8.encode "M".toList) none [sampleDef "show"]]⟩]

def ringApp : App := ⟨['/'], .ofSources ringSources⟩

theorem built_ring : Index.Built ringSources ringApp.index :=
  Index.built_ofSources (by decide +kernel)

theorem nearest_definition_of_ring :
    Index.Built ringSources ringApp.index ∧
      ∃ container ∈ ringApp.index.classes, container.qualifiedName = "AController".toList ∧
        ∃ found missing,
          (∀ (m : Type → Type) [Monad m] [LawfulMonad m],
            (ringApp.lookups : Lookups m).method? container "show".toList = pure found ∧
              (ringApp.lookups : Lookups m).method? container "edit".toList = pure missing) ∧
          found.method?.map (·.qualifiedName) = some "M#show".toList ∧
          missing = .cycle "AController".toList := by
  have member : ∃ container ∈ ringApp.index.classes,
      container.qualifiedName = "AController".toList ∧
        (Id.run ((ringApp.lookups : Lookups Id).method? container "show".toList)).method?.map
          (·.qualifiedName) = some "M#show".toList ∧
        Id.run ((ringApp.lookups : Lookups Id).method? container "edit".toList) =
          .cycle "AController".toList := by
    decide +kernel
  rcases member with ⟨container, member, named, shown, edited⟩
  obtain ⟨_, _, found, _, _, _, _, _, _, foundIn, _⟩ :=
    nearest_definition built_ring member "show".toList
  obtain ⟨_, _, missing, _, _, _, _, _, _, missingIn, _⟩ :=
    nearest_definition built_ring member "edit".toList
  refine ⟨built_ring, container, member, named, found, missing, ?_, ?_, ?_⟩
  · intro m _ _
    exact ⟨foundIn _ m, missingIn _ m⟩
  · rw [foundIn _ Id] at shown
    exact shown
  · rw [missingIn _ Id] at edited
    exact edited

end RouteReport
