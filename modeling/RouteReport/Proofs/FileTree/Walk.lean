import RouteReport.FileTree.RubyFiles

namespace RouteReport.FileTree

/-- A tree holds a file: the directories on the way down to it, its name and its content. -/
inductive Holds : FileTree → List Text → Text → Octets → Prop where
  | here {entries : List (Text × FileTree)} {name : Text} {content : Octets}
      (listed : (name, .file content) ∈ entries) : Holds (.directory entries) [] name content
  | inside {entries : List (Text × FileTree)} {folder : Text} {child : FileTree}
      {way : List Text} {name : Text} {content : Octets} (listed : (folder, child) ∈ entries)
      (held : Holds child way name content) : Holds (.directory entries) (folder :: way) name content

theorem not_holds_file {held content : Octets} {way : List Text} {name : Text} :
    ¬ Holds (.file held) way name content := by
  rintro ⟨⟩

theorem holds_directory_iff {entries : List (Text × FileTree)} {way : List Text} {name : Text}
    {content : Octets} : Holds (.directory entries) way name content ↔
      (way = [] ∧ (name, .file content) ∈ entries) ∨
        ∃ entry ∈ entries, ∃ rest, way = entry.1 :: rest ∧ entry.2.Holds rest name content := by
  constructor
  · rintro (listed | ⟨listed, held⟩)
    · exact .inl ⟨rfl, listed⟩
    · exact .inr ⟨_, listed, _, rfl, held⟩
  · rintro (⟨rfl, listed⟩ | ⟨⟨folder, child⟩, listed, rest, rfl, held⟩)
    · exact .here listed
    · exact .inside listed held

def isRubyFile (name : Text) : Bool := ".rb".toList.isSuffixOf name

/-- No directory on a way is excluded; `above` are the directories passed before. -/
def isOpen (excluded above : List Text) : List Text → Bool
  | [] => true
  | folder :: way =>
    !isExcluded excluded above folder && isOpen excluded (above ++ [folder]) way

/-- A file as a walk from `path` names it. -/
def sourceAt (path : Text) (way : List Text) (name : Text) (content : Octets) : SourceFile :=
  ⟨Path.join (way.foldl Path.join path) name, content⟩

variable {excluded above : List Text} {path : Text} {entries : List (Text × FileTree)}

theorem mem_rubyFilesOf_iff {entry : Text × SourceFile} :
    entry ∈ rubyFilesOf path entries ↔ ∃ name content, (name, .file content) ∈ entries ∧
      isRubyFile name = true ∧ entry = (name, sourceAt path [] name content) := by
  constructor
  · intro member
    obtain ⟨⟨name, tree⟩, listed, made⟩ := List.mem_filterMap.mp member
    cases tree with
    | directory _ => cases made
    | file content =>
      obtain ⟨ruby, same⟩ := Option.ite_none_right_eq_some.mp made
      exact ⟨name, content, listed, ruby, (Option.some.inj same).symm⟩
  · rintro ⟨name, content, listed, ruby, rfl⟩
    exact List.mem_filterMap.mpr ⟨_, listed, if_pos ruby⟩

theorem mem_rubyFilesBelow_iff {entry : Text × List SourceFile} :
    entry ∈ rubyFilesBelow excluded path above entries ↔
      ∃ folder child, (folder, child) ∈ entries ∧ child.isDirectory = true ∧
        isExcluded excluded above folder = false ∧
        entry = (folder,
          rubyFilesIn excluded (Path.join path folder) (above ++ [folder]) child) := by
  induction entries with
  | nil => simp [rubyFilesBelow]
  | cons first rest ih =>
    obtain ⟨name, tree⟩ := first
    by_cases walked : (tree.isDirectory && !isExcluded excluded above name) = true
    · rw [rubyFilesBelow, if_pos walked, List.mem_cons, ih]
      simp only [Bool.and_eq_true, Bool.not_eq_true'] at walked
      constructor
      · rintro (rfl | ⟨folder, child, listed, others⟩)
        · exact ⟨name, tree, List.mem_cons_self, walked.1, walked.2, rfl⟩
        · exact ⟨folder, child, List.mem_cons_of_mem _ listed, others⟩
      · rintro ⟨folder, child, listed, others⟩
        rcases List.mem_cons.mp listed with same | later
        · obtain ⟨rfl, rfl⟩ := Prod.mk.injEq .. ▸ same
          exact .inl others.2.2
        · exact .inr ⟨folder, child, later, others⟩
    · rw [rubyFilesBelow, if_neg walked, ih]
      constructor
      · rintro ⟨folder, child, listed, others⟩
        exact ⟨folder, child, List.mem_cons_of_mem _ listed, others⟩
      · rintro ⟨folder, child, listed, isDirectory, passable, others⟩
        rcases List.mem_cons.mp listed with same | later
        · obtain ⟨rfl, rfl⟩ := Prod.mk.injEq .. ▸ same
          exact absurd (by simp [isDirectory, passable]) walked
        · exact ⟨folder, child, later, isDirectory, passable, others⟩

theorem mem_rubyFilesIn_directory_iff {file : SourceFile} :
    file ∈ rubyFilesIn excluded path above (.directory entries) ↔
      (∃ name content, (name, .file content) ∈ entries ∧ isRubyFile name = true ∧
        file = sourceAt path [] name content) ∨
      ∃ folder child, (folder, child) ∈ entries ∧ child.isDirectory = true ∧
        isExcluded excluded above folder = false ∧
        file ∈ rubyFilesIn excluded (Path.join path folder) (above ++ [folder]) child := by
  simp only [rubyFilesIn, sortByName, List.mem_append, List.mem_map, List.mem_flatMap,
    List.mem_mergeSort, mem_rubyFilesOf_iff, mem_rubyFilesBelow_iff]
  constructor
  · rintro (⟨_, ⟨name, content, listed, ruby, rfl⟩, rfl⟩ |
      ⟨_, ⟨folder, child, listed, isDirectory, passable, rfl⟩, inside⟩)
    · exact .inl ⟨name, content, listed, ruby, rfl⟩
    · exact .inr ⟨folder, child, listed, isDirectory, passable, inside⟩
  · rintro (⟨name, content, listed, ruby, rfl⟩ |
      ⟨folder, child, listed, isDirectory, passable, inside⟩)
    · exact .inl ⟨_, ⟨name, content, listed, ruby, rfl⟩, rfl⟩
    · exact .inr ⟨_, ⟨folder, child, listed, isDirectory, passable, rfl⟩, inside⟩

theorem mem_rubyFilesIn_of_holds {tree : FileTree} {way : List Text} {name : Text} {content : Octets}
    (holds : tree.Holds way name content) (ruby : isRubyFile name = true)
    (passable : isOpen excluded above way = true) :
    sourceAt path way name content ∈ rubyFilesIn excluded path above tree := by
  induction holds generalizing path above with
  | here listed => exact mem_rubyFilesIn_directory_iff.mpr (.inl ⟨_, _, listed, ruby, rfl⟩)
  | inside listed held ih =>
    simp only [isOpen, Bool.and_eq_true, Bool.not_eq_true'] at passable
    refine mem_rubyFilesIn_directory_iff.mpr (.inr ⟨_, _, listed, ?_, passable.1, ih ruby passable.2⟩)
    cases held <;> rfl

theorem holds_of_mem_rubyFilesIn (tree : FileTree) {path : Text} {above : List Text}
    {file : SourceFile} (member : file ∈ rubyFilesIn excluded path above tree) :
    ∃ way name content, tree.Holds way name content ∧ isRubyFile name = true ∧
      isOpen excluded above way = true ∧ file = sourceAt path way name content := by
  -- Trees are nested in lists of entries, so the recursion goes by size and not by the constructors.
  match tree with
  | .file _ => cases member
  | .directory entries =>
    rcases mem_rubyFilesIn_directory_iff.mp member with ⟨name, content, listed, ruby, rfl⟩ |
      ⟨folder, child, listed, _, passable, inside⟩
    · exact ⟨[], name, content, .here listed, ruby, rfl, rfl⟩
    · obtain ⟨way, name, content, holds, ruby, rest, rfl⟩ := holds_of_mem_rubyFilesIn child inside
      exact ⟨folder :: way, name, content, .inside listed holds, ruby,
        by simp [isOpen, passable, rest], rfl⟩
termination_by sizeOf tree
decreasing_by
  have smaller := List.sizeOf_lt_of_mem listed
  simp only [Prod.mk.sizeOf_spec, FileTree.directory.sizeOf_spec] at smaller ⊢
  omega

theorem mem_rubyFiles_iff {tree : FileTree} {file : SourceFile} :
    file ∈ tree.rubyFiles excluded path ↔
      ∃ way name content, tree.Holds way name content ∧ isRubyFile name = true ∧
        isOpen excluded [] way = true ∧ file = sourceAt path way name content := by
  constructor
  · exact holds_of_mem_rubyFilesIn tree
  · rintro ⟨way, name, content, holds, ruby, passable, rfl⟩
    exact mem_rubyFilesIn_of_holds holds ruby passable

end RouteReport.FileTree
