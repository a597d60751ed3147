import RouteReport.Proofs.FileTree.Names
import RouteReport.Proofs.FileTree.Walk

/-! The order in which a walk comes to the Ruby files of a tree. It is fixed by the names alone, so it
does not matter in which order a disk lists the entries of a directory. -/

namespace RouteReport

theorem Text.le_iff (a b : Text) : Text.le a b = true ↔ ¬ b < a := by
  induction a generalizing b with
  | nil => simp [le]
  | cons c rest ih =>
    cases b with
    | nil => simp [le]
    | cons d more =>
      rw [List.cons_lt_cons_iff, not_or, not_and, ← ih more]
      rcases eq_or_ne c d with rfl | different
      · simp [le]
      · have apart : c.toNat ≠ d.toNat := fun same => different (Char.toNat_inj.mp same)
        have below : d < c ↔ d.toNat < c.toNat := Iff.rfl
        simp only [le, below, beq_iff_eq, different, different.symm, Bool.or_eq_true, Bool.and_eq_true,
          decide_eq_true_eq, false_and, or_false, IsEmpty.forall_iff, and_true]
        omega

theorem Text.lt_of_le_of_ne {a b : Text} (below : ¬ b < a) (different : a ≠ b) : a < b := by
  by_contra above
  exact different (List.le_antisymm below above)

namespace FileTree

/-- A file as it hangs in a tree: the directories on the way down to it, its name and its content. -/
structure Leaf where
  way : List Text
  name : Text
  content : Octets

namespace Leaf

def source (path : Text) (leaf : Leaf) : SourceFile := sourceAt path leaf.way leaf.name leaf.content

/-- The leaf as it hangs in the tree around a directory. -/
def inside (folder : Text) (leaf : Leaf) : Leaf := { leaf with way := folder :: leaf.way }

/-- The files of a directory come by name, before those of its subdirectories; these come by name, too. -/
inductive Precedes : Leaf → Leaf → Prop where
  | byName {first second : Text} {a b : Octets} (less : first < second) :
      Precedes ⟨[], first, a⟩ ⟨[], second, b⟩
  | beforeFolders {first second folder : Text} {way : List Text} {a b : Octets} :
      Precedes ⟨[], first, a⟩ ⟨folder :: way, second, b⟩
  | byFolder {folder later first second : Text} {way other : List Text} {a b : Octets}
      (less : folder < later) : Precedes ⟨folder :: way, first, a⟩ ⟨later :: other, second, b⟩
  | inFolder {folder first second : Text} {way other : List Text} {a b : Octets}
      (inner : Precedes ⟨way, first, a⟩ ⟨other, second, b⟩) :
      Precedes ⟨folder :: way, first, a⟩ ⟨folder :: other, second, b⟩

theorem Precedes.asymm {first second : Leaf} (before : first.Precedes second) :
    ¬ second.Precedes first := by
  induction before with
  | byName less =>
    rintro (again | _)
    exact List.lt_asymm less again
  | beforeFolders => rintro ⟨⟩
  | byFolder less =>
    intro back
    cases back with
    | byFolder again => exact List.lt_asymm less again
    | inFolder inner => exact List.lt_irrefl _ less
  | inFolder inner ih =>
    intro back
    cases back with
    | byFolder again => exact List.lt_irrefl _ again
    | inFolder again => exact ih again

theorem Precedes.ne_place {first second : Leaf} (before : first.Precedes second) :
    ¬ (first.way = second.way ∧ first.name = second.name) := by
  induction before with
  | byName less =>
    rintro ⟨_, rfl⟩
    exact List.lt_irrefl _ less
  | beforeFolders => rintro ⟨⟨⟩, _⟩
  | byFolder less =>
    rintro ⟨⟨⟩, _⟩
    exact List.lt_irrefl _ less
  | inFolder inner ih => exact fun ⟨ways, names⟩ => ih ⟨(List.cons.inj ways).2, names⟩

/-- A leaf whose names are proper. -/
structure IsProper (leaf : Leaf) : Prop where
  way : ∀ folder ∈ leaf.way, Path.IsComponent folder
  name : Path.IsComponent leaf.name

theorem IsProper.inside {folder : Text} {leaf : Leaf} (proper : leaf.IsProper)
    (named : Path.IsComponent folder) : (leaf.inside folder).IsProper where
  way := List.forall_mem_cons.mpr ⟨named, proper.way⟩
  name := proper.name

theorem IsProper.eq_of_path {path : Text} {first second : Leaf} (proper : first.IsProper)
    (properToo : second.IsProper) (same : (first.source path).path = (second.source path).path) :
    first.way = second.way ∧ first.name = second.name := by
  simp only [source, sourceAt, Path.join_foldl path proper.way proper.name,
    Path.join_foldl path properToo.way properToo.name] at same
  have clean {leaf : Leaf} (proper : leaf.IsProper) : ∀ piece ∈ leaf.way ++ [leaf.name], '/' ∉ piece := by
    intro piece member
    rcases List.mem_append.mp member with inWay | last
    · exact (proper.way piece inWay).noSlash
    · exact List.mem_singleton.mp last ▸ proper.name.noSlash
  have pieces := congrArg (Text.splitOn · '/') (List.append_cancel_left same)
  simp only [Text.splitOn_join '/' _ (by simp) (clean proper),
    Text.splitOn_join '/' _ (by simp) (clean properToo)] at pieces
  obtain ⟨ways, names⟩ := List.append_inj' pieces rfl
  exact ⟨ways, List.singleton_inj.mp names⟩

theorem IsProper.eq_of_source {path : Text} {first second : Leaf} (proper : first.IsProper)
    (properToo : second.IsProper) (same : first.source path = second.source path) : first = second := by
  obtain ⟨ways, names⟩ := proper.eq_of_path properToo (congrArg SourceFile.path same)
  have contents : first.content = second.content := congrArg SourceFile.content same
  cases first
  cases second
  simp_all

end Leaf

/-- A tree as a disk can have it: proper names, and no two entries of one name in a directory. -/
inductive IsProper : FileTree → Prop where
  | file (content : Octets) : IsProper (.file content)
  | directory {entries : List (Text × FileTree)} (distinct : (entries.map (·.1)).Nodup)
      (named : ∀ entry ∈ entries, Path.IsComponent entry.1)
      (each : ∀ entry ∈ entries, IsProper entry.2) : IsProper (.directory entries)

theorem IsProper.leaf {tree : FileTree} (proper : tree.IsProper) {way : List Text} {name : Text}
    {content : Octets} (holds : tree.Holds way name content) : Leaf.IsProper ⟨way, name, content⟩ := by
  induction holds with
  | here listed =>
    obtain _ | ⟨_, named, _⟩ := proper
    exact ⟨by simp, named _ listed⟩
  | inside listed _ ih =>
    obtain _ | ⟨_, named, each⟩ := proper
    exact (ih (each _ listed)).inside (named _ listed)

section Walk

variable {excluded above : List Text} {path : Text} {entries : List (Text × FileTree)}

theorem names_rubyFilesOf_sublist :
    List.Sublist ((rubyFilesOf path entries).map (·.1)) (entries.map (·.1)) := by
  induction entries with
  | nil => exact .slnil
  | cons entry rest ih =>
    obtain ⟨name, tree⟩ := entry
    rw [rubyFilesOf, List.filterMap_cons]
    cases tree with
    | directory inner => exact .cons name ih
    | file content =>
      by_cases ruby : ".rb".toList.isSuffixOf name = true
      · simp only [ruby, ↓reduceIte, List.map_cons]
        exact .cons_cons name ih
      · simp only [ruby, List.map_cons]
        exact .cons name ih

theorem names_rubyFilesBelow_sublist :
    List.Sublist ((rubyFilesBelow excluded path above entries).map (·.1)) (entries.map (·.1)) := by
  induction entries with
  | nil => exact .slnil
  | cons entry rest ih =>
    obtain ⟨name, tree⟩ := entry
    rw [rubyFilesBelow]
    split
    · exact .cons_cons name ih
    · exact .cons name ih

theorem mem_sortByName {α : Type} {entries : List (Text × α)} {entry : Text × α} :
    entry ∈ sortByName entries ↔ entry ∈ entries :=
  List.mem_mergeSort

theorem pairwise_sortByName {α : Type} {entries : List (Text × α)}
    (distinct : (entries.map (·.1)).Nodup) :
    (sortByName entries).Pairwise fun first second => first.1 < second.1 := by
  have sorted : (sortByName entries).Pairwise fun first second => Text.le first.1 second.1 = true := by
    apply List.pairwise_mergeSort
    · intro a b c first second
      rw [Text.le_iff] at *
      exact List.le_trans first second
    · intro a b
      rw [Bool.or_eq_true, Text.le_iff, Text.le_iff]
      exact List.le_total _ _
  have apart : (sortByName entries).Pairwise fun first second => first.1 ≠ second.1 := by
    have permuted := (List.mergeSort_perm entries fun a b => Text.le a.1 b.1).map (·.1)
    exact List.pairwise_map.mp (permuted.nodup_iff.mpr distinct)
  refine (sorted.and apart).imp ?_
  rintro first second ⟨below, different⟩
  exact Text.lt_of_le_of_ne ((Text.le_iff _ _).mp below) different

def ComesBefore (path : Text) (first second : SourceFile) : Prop :=
  ∃ a b : Leaf, a.IsProper ∧ b.IsProper ∧ first = a.source path ∧ second = b.source path ∧ a.Precedes b

theorem ComesBefore.inside {folder : Text} (named : Path.IsComponent folder) {first second : SourceFile}
    (before : ComesBefore (Path.join path folder) first second) : ComesBefore path first second := by
  obtain ⟨a, b, proper, properToo, rfl, rfl, precedes⟩ := before
  exact ⟨a.inside folder, b.inside folder, proper.inside named, properToo.inside named, rfl, rfl,
    .inFolder precedes⟩

theorem pairwise_rubyFilesIn (tree : FileTree) (proper : tree.IsProper) {path : Text}
    {above : List Text} : (rubyFilesIn excluded path above tree).Pairwise (ComesBefore path) := by
  match tree, proper with
  | .file _, _ => exact .nil
  | .directory entries, .directory distinct named each =>
    have filesApart : (sortByName (rubyFilesOf path entries)).Pairwise
        fun first second => first.1 < second.1 :=
      pairwise_sortByName (names_rubyFilesOf_sublist.nodup distinct)
    have foldersApart : (sortByName (rubyFilesBelow excluded path above entries)).Pairwise
        fun first second => first.1 < second.1 :=
      pairwise_sortByName (names_rubyFilesBelow_sublist.nodup distinct)
    -- What the walk finds in a subdirectory hangs below its name.
    have within {folder : Text} {child : FileTree} (listed : (folder, child) ∈ entries)
        {file : SourceFile}
        (member : file ∈ rubyFilesIn excluded (Path.join path folder) (above ++ [folder]) child) :
        ∃ leaf : Leaf, leaf.IsProper ∧ Path.IsComponent folder ∧
          file = (leaf.inside folder).source path := by
      obtain ⟨way, name, content, holds, _, _, rfl⟩ := holds_of_mem_rubyFilesIn child member
      exact ⟨⟨way, name, content⟩, (each _ listed).leaf holds, named _ listed, rfl⟩
    rw [rubyFilesIn]
    refine List.pairwise_append.mpr ⟨?_, List.pairwise_flatMap.mpr ⟨?_, ?_⟩, ?_⟩
    · refine List.pairwise_map.mpr (filesApart.imp_of_mem ?_)
      intro first second inFirst inSecond less
      obtain ⟨a, contentA, listed, _, rfl⟩ := mem_rubyFilesOf_iff.mp (mem_sortByName.mp inFirst)
      obtain ⟨b, contentB, listedToo, _, rfl⟩ := mem_rubyFilesOf_iff.mp (mem_sortByName.mp inSecond)
      exact ⟨⟨[], a, contentA⟩, ⟨[], b, contentB⟩, ⟨by simp, named _ listed⟩,
        ⟨by simp, named _ listedToo⟩, rfl, rfl, .byName less⟩
    · intro entry member
      obtain ⟨folder, child, listed, _, _, rfl⟩ := mem_rubyFilesBelow_iff.mp (mem_sortByName.mp member)
      refine (pairwise_rubyFilesIn child (each _ listed)).imp ?_
      intro first second before
      exact before.inside (named _ listed)
    · refine foldersApart.imp_of_mem ?_
      intro first second inFirst inSecond less x inX y inY
      obtain ⟨f, childF, listedF, _, _, rfl⟩ := mem_rubyFilesBelow_iff.mp (mem_sortByName.mp inFirst)
      obtain ⟨g, childG, listedG, _, _, rfl⟩ := mem_rubyFilesBelow_iff.mp (mem_sortByName.mp inSecond)
      obtain ⟨a, proper, namedF, rfl⟩ := within listedF inX
      obtain ⟨b, properToo, namedG, rfl⟩ := within listedG inY
      exact ⟨a.inside f, b.inside g, proper.inside namedF, properToo.inside namedG, rfl, rfl,
        .byFolder less⟩
    · intro file own other inFolder
      obtain ⟨entry, member, rfl⟩ := List.mem_map.mp own
      obtain ⟨name, content, listed, _, rfl⟩ := mem_rubyFilesOf_iff.mp (mem_sortByName.mp member)
      obtain ⟨entry, member, inEntry⟩ := List.mem_flatMap.mp inFolder
      obtain ⟨folder, child, listedToo, _, _, rfl⟩ :=
        mem_rubyFilesBelow_iff.mp (mem_sortByName.mp member)
      obtain ⟨b, proper, namedFolder, rfl⟩ := within listedToo inEntry
      exact ⟨⟨[], name, content⟩, b.inside folder, ⟨by simp, named _ listed⟩,
        proper.inside namedFolder, rfl, rfl, .beforeFolders⟩
termination_by sizeOf tree
decreasing_by
  have smaller := List.sizeOf_lt_of_mem listed
  simp only [Prod.mk.sizeOf_spec, FileTree.directory.sizeOf_spec] at smaller ⊢
  omega

end Walk

end FileTree

end RouteReport
