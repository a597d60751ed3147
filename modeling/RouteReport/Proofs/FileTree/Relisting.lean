import RouteReport.Proofs.FileTree.Order

/-! Which files a walk comes to and in which order is settled by what the tree holds: there is exactly
one such list, and it stays the same when directories list their entries in another order. -/

namespace RouteReport.FileTree

variable {tree other : FileTree} {excluded above way : List Text} {leaves : List Leaf}

/-- No directory on a way is excluded by its name, or by its normal path below the root. -/
def Passable (excluded way : List Text) : Prop :=
  ∀ above folder below, way = above ++ folder :: below →
    folder ∉ excluded ∧ Path.normalize (Text.join ['/'] (above ++ [folder])) ∉ excluded

theorem isOpen_iff : isOpen excluded above way = true ↔
    ∀ front folder back, way = front ++ folder :: back →
      folder ∉ excluded ∧ Text.join ['/'] (above ++ front ++ [folder]) ∉ excluded := by
  induction way generalizing above with
  | nil => simp [isOpen]
  | cons first rest ih =>
    rw [isOpen, Bool.and_eq_true, ih]
    constructor
    · rintro ⟨here, later⟩ front folder back shape
      rcases List.cons_eq_append_iff.mp shape with ⟨rfl, same⟩ | ⟨others, rfl, same⟩
      · obtain ⟨rfl, rfl⟩ := List.cons.inj same
        simpa [isExcluded] using here
      · simpa using later others folder back same
    · intro each
      refine ⟨by simpa [isExcluded] using each [] first rest rfl, ?_⟩
      intro front folder back shape
      simpa using each (first :: front) folder back (by rw [shape, List.cons_append])

theorem isOpen_iff_passable (proper : ∀ folder ∈ way, Path.IsComponent folder) :
    isOpen excluded [] way = true ↔ Passable excluded way := by
  rw [isOpen_iff]
  have same (front : List Text) (folder : Text) (back : List Text)
      (shape : way = front ++ folder :: back) :
      Path.normalize (Text.join ['/'] (front ++ [folder])) = Text.join ['/'] (front ++ [folder]) := by
    apply Path.normalize_join (by simp)
    intro name member
    apply proper
    rw [shape]
    rcases List.mem_append.mp member with early | last
    · exact List.mem_append_left _ early
    · exact List.mem_append_right _ (List.mem_singleton.mp last ▸ List.mem_cons_self)
  constructor
  · intro each front folder back shape
    rw [same front folder back shape]
    exact each front folder back shape
  · intro each front folder back shape
    have both := each front folder back shape
    rwa [same front folder back shape] at both

/-- The Ruby files that no excluded directory hides, once each and in the order of a walk. -/
structure IsWalk (tree : FileTree) (excluded : List Text) (leaves : List Leaf) : Prop where
  mem_iff : ∀ leaf, leaf ∈ leaves ↔ tree.Holds leaf.way leaf.name leaf.content ∧
    ".rb".toList <:+ leaf.name ∧ Passable excluded leaf.way
  ordered : leaves.Pairwise Leaf.Precedes

theorem IsWalk.nodup (walk : tree.IsWalk excluded leaves) : leaves.Nodup := by
  refine walk.ordered.imp ?_
  rintro leaf _ before rfl
  exact before.asymm before

theorem IsWalk.eq_of_holds {others : List Leaf} (walk : tree.IsWalk excluded leaves)
    (again : other.IsWalk excluded others)
    (same : ∀ way name content, tree.Holds way name content ↔ other.Holds way name content) :
    leaves = others := by
  have members : ∀ leaf, leaf ∈ leaves ↔ leaf ∈ others := by
    intro leaf
    rw [walk.mem_iff, again.mem_iff, same]
  refine List.Perm.eq_of_pairwise ?_ walk.ordered again.ordered
    ((List.perm_ext_iff_of_nodup walk.nodup again.nodup).mpr members)
  intro first second _ _ before after
  exact absurd after before.asymm

theorem IsWalk.isProper (walk : tree.IsWalk excluded leaves) (proper : tree.IsProper) :
    ∀ leaf ∈ leaves, leaf.IsProper :=
  fun leaf member => proper.leaf ((walk.mem_iff leaf).mp member).1

theorem IsWalk.paths_nodup (walk : tree.IsWalk excluded leaves) (proper : tree.IsProper) (path : Text) :
    (leaves.map fun leaf => (leaf.source path).path).Nodup := by
  have each := walk.isProper proper
  refine List.pairwise_map.mpr (walk.ordered.imp_of_mem ?_)
  intro first second inFirst inSecond before same
  exact before.ne_place ((each _ inFirst).eq_of_path (each _ inSecond) same)

theorem exists_leaves {path : Text} {files : List SourceFile} {property : Leaf → Prop}
    (each : ∀ file ∈ files, ∃ leaf : Leaf, property leaf ∧ leaf.source path = file) :
    ∃ leaves : List Leaf, (∀ leaf ∈ leaves, property leaf) ∧ leaves.map (Leaf.source path) = files := by
  induction files with
  | nil => exact ⟨[], by simp, rfl⟩
  | cons file rest ih =>
    obtain ⟨first, others⟩ := List.forall_mem_cons.mp each
    obtain ⟨leaf, holds, rfl⟩ := first
    obtain ⟨leaves, all, rfl⟩ := ih others
    exact ⟨leaf :: leaves, List.forall_mem_cons.mpr ⟨holds, all⟩, rfl⟩

theorem exists_isWalk (proper : tree.IsProper) (excluded : List Text) (path : Text) :
    ∃ leaves, tree.IsWalk excluded leaves ∧
      tree.rubyFiles excluded path = leaves.map (Leaf.source path) := by
  have asLeaf : ∀ file ∈ tree.rubyFiles excluded path, ∃ leaf : Leaf,
      (tree.Holds leaf.way leaf.name leaf.content ∧
        isRubyFile leaf.name = true ∧ isOpen excluded [] leaf.way = true) ∧
      leaf.source path = file := by
    intro file member
    obtain ⟨way, name, content, holds, ruby, passable, rfl⟩ := mem_rubyFiles_iff.mp member
    exact ⟨⟨way, name, content⟩, ⟨holds, ruby, passable⟩, rfl⟩
  obtain ⟨leaves, all, sources⟩ := exists_leaves asLeaf
  have properLeaf : ∀ leaf ∈ leaves, leaf.IsProper := fun leaf member => proper.leaf (all leaf member).1
  refine ⟨leaves, ⟨?_, ?_⟩, sources.symm⟩
  · intro leaf
    constructor
    · intro member
      obtain ⟨holds, ruby, passable⟩ := all leaf member
      exact ⟨holds, List.isSuffixOf_iff_suffix.mp ruby,
        (isOpen_iff_passable (properLeaf leaf member).way).mp passable⟩
    · rintro ⟨holds, ruby, passable⟩
      have leafProper := proper.leaf holds
      have walked : leaf.source path ∈ tree.rubyFiles excluded path :=
        mem_rubyFiles_iff.mpr ⟨leaf.way, leaf.name, leaf.content, holds,
          List.isSuffixOf_iff_suffix.mpr ruby, (isOpen_iff_passable leafProper.way).mpr passable, rfl⟩
      rw [← sources] at walked
      obtain ⟨found, member, same⟩ := List.mem_map.mp walked
      have this : found = leaf := (properLeaf found member).eq_of_source leafProper same
      exact this ▸ member
  · have inOrder : (leaves.map (Leaf.source path)).Pairwise (ComesBefore path) :=
      sources ▸ pairwise_rubyFilesIn tree proper
    refine (List.pairwise_map.mp inOrder).imp_of_mem ?_
    intro first second inFirst inSecond before
    obtain ⟨a, b, properA, properB, sameA, sameB, precedes⟩ := before
    rw [(properLeaf _ inFirst).eq_of_source properA sameA,
      (properLeaf _ inSecond).eq_of_source properB sameB]
    exact precedes

/-- The same directories and files, with the entries of some directories listed in another order. -/
inductive Relisted : FileTree → FileTree → Prop where
  | refl (tree : FileTree) : Relisted tree tree
  | listing {entries others : List (Text × FileTree)} (order : entries.Perm others) :
      Relisted (.directory entries) (.directory others)
  | inside {before after entries others : List (Text × FileTree)} {folder : Text}
      (inner : Relisted (.directory entries) (.directory others)) :
      Relisted (.directory (before ++ (folder, .directory entries) :: after))
        (.directory (before ++ (folder, .directory others) :: after))
  | trans {first second third : FileTree} (early : Relisted first second)
      (late : Relisted second third) : Relisted first third

theorem Relisted.holds_iff (relisted : tree.Relisted other) (way : List Text) (name : Text)
    (content : Octets) : tree.Holds way name content ↔ other.Holds way name content := by
  induction relisted generalizing way name with
  | refl tree => exact Iff.rfl
  | listing order => simp only [holds_directory_iff, order.mem_iff]
  | inside _ ih =>
    rw [holds_directory_iff, holds_directory_iff]
    simp [or_and_right, exists_or, ih]
  | trans _ _ early late => exact (early way name).trans (late way name)

theorem Relisted.isProper (relisted : tree.Relisted other) (proper : tree.IsProper) : other.IsProper := by
  induction relisted with
  | refl tree => exact proper
  | listing order =>
    obtain _ | ⟨distinct, named, each⟩ := proper
    exact .directory ((order.map _).nodup_iff.mp distinct)
      (fun entry member => named entry (order.mem_iff.mpr member))
      (fun entry member => each entry (order.mem_iff.mpr member))
  | inside _ ih =>
    obtain _ | ⟨distinct, named, each⟩ := proper
    simp only [List.map_append, List.map_cons] at distinct
    simp only [List.forall_mem_append, List.forall_mem_cons] at named each
    refine .directory (by simpa using distinct) ?_ ?_
    · simp only [List.forall_mem_append, List.forall_mem_cons]
      exact named
    · simp only [List.forall_mem_append, List.forall_mem_cons]
      exact ⟨each.1, ih each.2.1, each.2.2⟩
  | trans _ _ early late => exact late (early proper)

end RouteReport.FileTree
