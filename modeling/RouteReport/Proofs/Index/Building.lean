import RouteReport.Proofs.FileTree.Relisting
import RouteReport.Proofs.Index.Coverage

namespace RouteReport

open FileTree (Leaf)

/-- A tree has one walk, whose files have different paths. Its index is that of these files in their
order, and stays the same if directories list their entries in another order. -/
theorem build_of_walk (parse : Ruby.Parser) {tree : FileTree} (proper : tree.IsProper)
    (excluded : List Text) (path : Text) :
    (∃ leaves, tree.IsWalk excluded leaves) ∧
      ∀ leaves, tree.IsWalk excluded leaves →
        (leaves.map fun leaf => (leaf.source path).path).Nodup ∧
        ∀ other, tree.Relisted other →
          Index.build other excluded path parse =
            Index.empty.addFiles (leaves.map (Leaf.source path)) parse ∧
          ((∀ leaf ∈ leaves, ((leaf.source path).parsed parse).Complete) →
            Index.build other excluded path parse = .ok ((leaves.map (Leaf.source path)).foldl
              (fun index file => (index.addSource file.path file.content parse).1) Index.empty)) := by
  constructor
  · obtain ⟨leaves, walk, _⟩ := FileTree.exists_isWalk proper excluded path
    exact ⟨leaves, walk⟩
  · intro leaves walk
    refine ⟨walk.paths_nodup proper path, ?_⟩
    intro other relisted
    obtain ⟨found, again, sources⟩ :=
      FileTree.exists_isWalk (relisted.isProper proper) excluded path
    have same : leaves = found := walk.eq_of_holds again relisted.holds_iff
    have added : Index.build other excluded path parse =
        Index.empty.addFiles (leaves.map (Leaf.source path)) parse := by
      rw [Index.build, sources, same]
    refine ⟨added, ?_⟩
    intro complete
    have readable : ∀ file ∈ leaves.map (Leaf.source path), (file.parsed parse).Complete := by
      intro file member
      obtain ⟨leaf, inLeaves, rfl⟩ := List.mem_map.mp member
      exact complete leaf inLeaves
    rw [added, Index.addFiles_of_complete readable, List.foldl_map]
    rfl

def classFile (name : String) : Octets := Utf8.encode ("class ".toList ++ name.toList ++ "\nend\n".toList)

def nestedEntries : List (Text × FileTree) :=
  [("vendor".toList, .directory [("b.rb".toList, .file (classFile "C")),
      ("bundle".toList, .directory [("a.rb".toList, .file (classFile "D"))])]),
    ("b.rb".toList, .file (classFile "B")), ("a.rb".toList, .file (classFile "A"))]

def nestedLeaves : List Leaf :=
  [⟨[], "a.rb".toList, classFile "A"⟩, ⟨[], "b.rb".toList, classFile "B"⟩,
    ⟨["vendor".toList], "b.rb".toList, classFile "C"⟩]

theorem isProper_nested : (FileTree.directory nestedEntries).IsProper := by
  refine .directory (by decide) (by decide) ?_
  simp only [nestedEntries, List.forall_mem_cons]
  refine ⟨.directory (by decide) (by decide) ?_, .file _, .file _, by simp⟩
  simp only [List.forall_mem_cons]
  refine ⟨.file _, .directory (by decide) (by decide) ?_, by simp⟩
  simp only [List.forall_mem_cons]
  exact ⟨.file _, by simp⟩

theorem mem_nestedLeaves_iff {way : List Text} {name : Text} {content : Octets} :
    (⟨way, name, content⟩ : Leaf) ∈ nestedLeaves ↔
      (FileTree.directory nestedEntries).Holds way name content ∧
        way ≠ ["vendor".toList, "bundle".toList] := by
  simp [nestedLeaves, nestedEntries, FileTree.holds_directory_iff, FileTree.not_holds_file]
  grind

theorem isWalk_nested :
    (FileTree.directory nestedEntries).IsWalk Index.defaultExclusions nestedLeaves where
  mem_iff := by
    rintro ⟨way, name, content⟩
    have walked : ∀ leaf ∈ nestedLeaves, ".rb".toList <:+ leaf.name ∧
        FileTree.isOpen Index.defaultExclusions [] leaf.way = true := by
      decide
    rw [and_congr_right fun holds => and_congr_right fun _ =>
      (FileTree.isOpen_iff_passable (isProper_nested.leaf holds).way).symm]
    constructor
    · intro member
      exact ⟨(mem_nestedLeaves_iff.mp member).1, walked _ member⟩
    · have hidden : FileTree.isOpen Index.defaultExclusions [] ["vendor".toList, "bundle".toList] = false := by
        decide
      rintro ⟨holds, _, passable⟩
      refine mem_nestedLeaves_iff.mpr ⟨holds, ?_⟩
      rintro rfl
      exact absurd (hidden.symm.trans passable) (by decide)
  ordered := by
    refine List.pairwise_cons.mpr ⟨?_, List.pairwise_pair.mpr .beforeFolders⟩
    simp only [List.forall_mem_cons]
    exact ⟨.byName (by decide), .beforeFolders, by simp⟩

theorem build_of_nested :
    (FileTree.directory nestedEntries).IsProper ∧
      (FileTree.directory nestedEntries).Relisted (.directory nestedEntries.reverse) ∧
      (Index.build (.directory nestedEntries.reverse) Index.defaultExclusions ['/']).map
        (·.classes.names) = .ok ["A".toList, "B".toList, "C".toList] := by
  have relisted : (FileTree.directory nestedEntries).Relisted (.directory nestedEntries.reverse) :=
    .listing (List.reverse_perm nestedEntries).symm
  have complete : ∀ leaf ∈ nestedLeaves, ((leaf.source ['/']).parsed Ruby.read).Complete := by
    decide +kernel
  obtain ⟨_, walked⟩ := build_of_walk Ruby.read isProper_nested Index.defaultExclusions ['/']
  obtain ⟨_, indexed⟩ := walked nestedLeaves isWalk_nested
  refine ⟨isProper_nested, relisted, ?_⟩
  rw [(indexed _ relisted).2 complete]
  decide +kernel

end RouteReport
