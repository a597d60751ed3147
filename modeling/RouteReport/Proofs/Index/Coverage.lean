import RouteReport.App
import RouteReport.Proofs.FileTree.Walk
import RouteReport.Proofs.Index.Lookup
import RouteReport.Proofs.Index.Opening

/-! The classes of an application's controllers, as far as its index covers them. Directories are left
out by their names at every depth, so a directory of controllers can be hidden by its name. -/

namespace RouteReport

open Ruby (ContainerKind Node)

/-- A file of a walk with its statements. -/
def SourceFile.parsed (parse : Ruby.Parser) (file : SourceFile) : ParsedSource :=
  ⟨file.path, parse file.content⟩

namespace Index

variable {parse : Ruby.Parser}

theorem addFiles_of_complete {files : List SourceFile}
    (complete : ∀ file ∈ files, (file.parsed parse).Complete) (index : Index) :
    index.addFiles files parse = .ok ((files.map (SourceFile.parsed parse)).foldl add index) := by
  induction files generalizing index with
  | nil => rfl
  | cons file rest ih =>
    obtain ⟨first, others⟩ := List.forall_mem_cons.mp complete
    have read : index.addSource file.path file.content parse = (index.add (file.parsed parse), none) :=
      Prod.ext rfl first
    rw [addFiles, read, List.map_cons, List.foldl_cons]
    exact ih others _

theorem isExcluded_below_app (above : List Text) (folder : Text) :
    FileTree.isExcluded defaultExclusions ("app".toList :: above) folder =
      defaultExclusions.contains folder := by
  obtain ⟨first, rest, shape⟩ : ∃ first rest, above ++ [folder] = first :: rest :=
    List.exists_cons_of_ne_nil (by simp)
  have other : defaultExclusions.contains (Text.join ['/'] ("app".toList :: (above ++ [folder]))) =
      false := by
    have heads : ∀ excluded ∈ defaultExclusions, excluded.head? ≠ some 'a' := by decide
    rw [shape, Bool.eq_false_iff]
    intro listed
    exact heads _ (List.contains_iff_mem.mp listed) rfl
  rw [FileTree.isExcluded, List.cons_append, other, Bool.or_false]

theorem isOpen_below_app (above way : List Text) :
    FileTree.isOpen defaultExclusions ("app".toList :: above) way = true ↔
      ∀ folder ∈ way, folder ∉ defaultExclusions := by
  induction way generalizing above with
  | nil => simp [FileTree.isOpen]
  | cons folder rest ih =>
    rw [FileTree.isOpen, isExcluded_below_app, List.cons_append, Bool.and_eq_true, ih,
      List.forall_mem_cons]
    simp

end Index

theorem App.openAt_of_complete {parse : Ruby.Parser} {disk : FileTree} {base path : Text}
    {entries : List (Text × FileTree)}
    (found : disk.find (Path.absolute base path) = .ok (.directory entries))
    (readable : ∀ file ∈ (FileTree.directory entries).rubyFiles Index.defaultExclusions
      (Path.absolute base path), (file.parsed parse).Complete) :
    ∃ app log, App.openAt disk base path parse = (.ok app, log) ∧ app.root = Path.absolute base path ∧
      Index.Built (((FileTree.directory entries).rubyFiles Index.defaultExclusions
        (Path.absolute base path)).map (SourceFile.parsed parse)) app.index := by
  generalize walked : (FileTree.directory entries).rubyFiles Index.defaultExclusions
    (Path.absolute base path) = files at readable
  have sources : ∀ source ∈ files.map (SourceFile.parsed parse), source.Complete := by
    intro source member
    obtain ⟨file, inFiles, rfl⟩ := List.mem_map.mp member
    exact readable file inFiles
  have indexed : Index.empty.addFiles files parse = .ok (.ofSources (files.map (SourceFile.parsed parse))) :=
    Index.addFiles_of_complete readable Index.empty
  refine ⟨⟨Path.absolute base path, .ofSources (files.map (SourceFile.parsed parse))⟩,
    (App.openAt disk base path parse).2, ?_, rfl, ?_⟩
  · simp only [App.openAt, found, walked, indexed]
  · exact Index.built_ofSources sources

theorem Path.join_ne_nil {directory name : Text} (nonempty : name ≠ []) :
    Path.join directory name ≠ [] := by
  unfold Path.join
  split
  · exact nonempty
  · split
    · exact List.append_ne_nil_of_right_ne_nil _ nonempty
    · simp

/-- The classes that statements open outside all definitions. -/
def topLevelClasses (statements : List Node) : List Text :=
  statements.filterMap fun
    | .container _ .classKind name _ _ => some (qualifiedNameIn [] (decoded name).trim)
    | _ => none

theorem opened_of_topLevelClasses {statements : List Node} {className : Text}
    (top : className ∈ topLevelClasses statements) :
    (.classKind, className) ∈ openedIn [] statements := by
  induction statements with
  | nil => cases top
  | cons statement rest ih =>
    rw [openedIn, List.mem_append]
    obtain ⟨node, listed, named⟩ := List.mem_filterMap.mp top
    rcases List.mem_cons.mp listed with rfl | later
    · left
      split at named
      · rw [← Option.some.inj named]
        exact List.mem_cons_self
      · cases named
    · exact .inr (ih (List.mem_filterMap.mpr ⟨node, later, named⟩))

/-- The directories on the way to an application's controllers. -/
def controllersWay : List Text := ["app".toList, "controllers".toList]

theorem isOpen_controllersWay_iff (way : List Text) :
    FileTree.isOpen Index.defaultExclusions [] (controllersWay ++ way) = true ↔
      ∀ folder ∈ way, folder ∉ Index.defaultExclusions := by
  have app : FileTree.isExcluded Index.defaultExclusions [] "app".toList = false := by decide
  have controllers : "controllers".toList ∉ Index.defaultExclusions := by decide
  have start : controllersWay ++ way = "app".toList :: "controllers".toList :: way := rfl
  rw [start, FileTree.isOpen, app, Bool.not_false, Bool.true_and, List.nil_append,
    Index.isOpen_below_app, List.forall_mem_cons]
  exact and_iff_right controllers

/-- The index of an application holds the containers that its Ruby files open, but for the files below
an excluded directory. Below the directory of controllers these are the directories of an excluded
name. A class that another file there opens is found under its name. -/
theorem classes_covered_iff {parse : Ruby.Parser} {disk : FileTree} {base path : Text}
    {entries : List (Text × FileTree)}
    (found : disk.find (Path.absolute base path) = .ok (.directory entries))
    (readable : ∀ file ∈ (FileTree.directory entries).rubyFiles Index.defaultExclusions
      (Path.absolute base path), (file.parsed parse).Complete) :
    ∃ app log, App.openAt disk base path parse = (.ok app, log) ∧
      (∀ kind name, (app.index.container? kind name).isSome = true ↔
        ∃ way file content, (FileTree.directory entries).Holds way file content ∧
          FileTree.isRubyFile file = true ∧
          FileTree.isOpen Index.defaultExclusions [] way = true ∧
          (kind, name) ∈ openedIn [] (parse content)) ∧
      ∀ way file content, (FileTree.directory entries).Holds (controllersWay ++ way) file content →
        FileTree.isRubyFile file = true →
        (FileTree.isOpen Index.defaultExclusions [] (controllersWay ++ way) = true ↔
          ∀ folder ∈ way, folder ∉ Index.defaultExclusions) ∧
        ((∀ folder ∈ way, folder ∉ Index.defaultExclusions) →
          ∀ className ∈ topLevelClasses (parse content), ∃ container,
            app.index.container? .classKind className = some container ∧
              container.qualifiedName = className ∧
              (FileTree.sourceAt app.root (controllersWay ++ way) file content).path ∈
                container.files ∧
              (IsBareName className → app.index.class? className = some container)) := by
  obtain ⟨app, log, opens, rooted, built⟩ := App.openAt_of_complete found readable
  refine ⟨app, log, opens, ?_, ?_⟩
  · intro kind name
    rw [built.container?_isSome_iff]
    constructor
    · rintro ⟨source, member, opened⟩
      obtain ⟨file, inFiles, rfl⟩ := List.mem_map.mp member
      obtain ⟨way, fileName, content, holds, ruby, passable, rfl⟩ :=
        FileTree.mem_rubyFiles_iff.mp inFiles
      exact ⟨way, fileName, content, holds, ruby, passable, opened⟩
    · rintro ⟨way, fileName, content, holds, ruby, passable, opened⟩
      have inFiles : FileTree.sourceAt (Path.absolute base path) way fileName content ∈ _ :=
        FileTree.mem_rubyFiles_iff.mpr ⟨_, _, _, holds, ruby, passable, rfl⟩
      exact ⟨_, List.mem_map_of_mem inFiles, opened⟩
  · rw [rooted]
    intro way fileName content holds ruby
    have passes : FileTree.isOpen Index.defaultExclusions [] (controllersWay ++ way) = true ↔
        ∀ folder ∈ way, folder ∉ Index.defaultExclusions := isOpen_controllersWay_iff way
    refine ⟨passes, ?_⟩
    intro visible className top
    have inFiles : FileTree.sourceAt (Path.absolute base path) (controllersWay ++ way) fileName
        content ∈ _ :=
      FileTree.mem_rubyFiles_iff.mpr ⟨_, _, _, holds, ruby, passes.mpr visible, rfl⟩
    have member := List.mem_map_of_mem (f := SourceFile.parsed parse) inFiles
    have opened := opened_of_topLevelClasses top
    obtain ⟨container, known⟩ := Option.isSome_iff_exists.mp
      (built.container?_isSome_iff.mpr ⟨_, member, opened⟩)
    -- A file without a path would stand in no container.
    have named : fileName ≠ [] := by
      rintro rfl
      cases ruby
    exact ⟨container, known, (ContainerTable.mem_of_get? known).2,
      built.file_mem_of_opened member opened (Path.join_ne_nil named) known,
      fun bare => bare.lookup?_of_get? known⟩

def usersFile : SourceFile :=
  FileTree.sourceAt ['/'] (controllersWay ++ ["admin".toList]) "users_controller.rb".toList
    (Utf8.encode "class Admin::UsersController\nend\n".toList)

def reportsFile : SourceFile :=
  FileTree.sourceAt ['/'] (controllersWay ++ ["coverage".toList]) "reports_controller.rb".toList
    (Utf8.encode "class Coverage::ReportsController\nend\n".toList)

def reportsClass : Text := "Coverage::ReportsController".toList

def namespaceTree : FileTree :=
  .directory [("app".toList, .directory [("controllers".toList, .directory [
    ("admin".toList, .directory [("users_controller.rb".toList, .file usersFile.content)]),
    ("coverage".toList, .directory [("reports_controller.rb".toList, .file reportsFile.content)])])])]

theorem find_namespaceTree :
    namespaceTree.find (Path.absolute [] ['/']) = .ok namespaceTree := rfl

theorem holds_namespaceTree_iff {way : List Text} {file : Text} {content : Octets} :
    namespaceTree.Holds way file content ↔
      (way = controllersWay ++ ["admin".toList] ∧ file = "users_controller.rb".toList ∧
        content = usersFile.content) ∨
      (way = controllersWay ++ ["coverage".toList] ∧ file = "reports_controller.rb".toList ∧
        content = reportsFile.content) := by
  simp [namespaceTree, FileTree.holds_directory_iff, FileTree.not_holds_file, controllersWay,
    and_or_left, exists_or]

theorem mem_walk_of_namespaceTree {excluded : List Text} {file : SourceFile}
    (inWalk : file ∈ namespaceTree.rubyFiles excluded ['/']) : file = usersFile ∨
      file = reportsFile ∧
        FileTree.isOpen excluded [] (controllersWay ++ ["coverage".toList]) = true := by
  obtain ⟨way, name, content, holds, _, passable, rfl⟩ := FileTree.mem_rubyFiles_iff.mp inWalk
  rcases holds_namespaceTree_iff.mp holds with ⟨rfl, rfl, rfl⟩ | ⟨rfl, rfl, rfl⟩
  · exact .inl rfl
  · exact .inr ⟨rfl, passable⟩

theorem namespaces_read :
    (usersFile.parsed Ruby.read).Complete ∧ (reportsFile.parsed Ruby.read).Complete ∧
      (.classKind, reportsClass) ∉ openedIn [] (Ruby.read usersFile.content) ∧
      "Admin::UsersController".toList ∈ topLevelClasses (Ruby.read usersFile.content) ∧
      reportsClass ∈ topLevelClasses (Ruby.read reportsFile.content) ∧
      FileTree.isOpen Index.defaultExclusions [] (controllersWay ++ ["coverage".toList]) = false := by
  decide +kernel

theorem complete_of_namespaceTree {excluded : List Text} :
    ∀ file ∈ namespaceTree.rubyFiles excluded ['/'], (file.parsed Ruby.read).Complete := by
  intro file inWalk
  rcases mem_walk_of_namespaceTree inWalk with rfl | ⟨rfl, _⟩
  · exact namespaces_read.1
  · exact namespaces_read.2.1

theorem classes_covered_of_namespaces :
    ∃ app log, App.openAt namespaceTree [] ['/'] = (.ok app, log) ∧
      (app.index.class? "Admin::UsersController".toList).isSome = true ∧
      app.index.container? .classKind reportsClass = none := by
  obtain ⟨_, _, other, users, _, hidden⟩ := namespaces_read
  obtain ⟨app, log, opens, covered, controllers⟩ :=
    classes_covered_iff find_namespaceTree complete_of_namespaceTree
  refine ⟨app, log, opens, ?_, ?_⟩
  · obtain ⟨_, found⟩ := controllers ["admin".toList] _ _
      (holds_namespaceTree_iff.mpr (.inl ⟨rfl, rfl, rfl⟩)) (by decide)
    obtain ⟨container, _, _, _, looked⟩ := found (by decide) _ users
    rw [looked (by decide), Option.isSome_some]
  · rw [← Option.not_isSome_iff_eq_none, covered]
    rintro ⟨way, file, content, holds, _, passable, opened⟩
    rcases holds_namespaceTree_iff.mp holds with ⟨rfl, rfl, rfl⟩ | ⟨rfl, rfl, rfl⟩
    · exact other opened
    · rw [hidden] at passable
      cases passable

theorem controllers_hidden_by_name :
    ¬ ∀ (disk : FileTree) (base path : Text) (entries : List (Text × FileTree)),
      disk.find (Path.absolute base path) = .ok (.directory entries) →
        (∀ file ∈ (FileTree.directory entries).rubyFiles [] (Path.absolute base path),
          (file.parsed Ruby.read).Complete) →
        ∃ app log, App.openAt disk base path = (.ok app, log) ∧
          ∀ way file content,
            (FileTree.directory entries).Holds (controllersWay ++ way) file content →
              FileTree.isRubyFile file = true → ∀ className ∈ topLevelClasses (Ruby.read content),
                ∃ container, app.index.container? .classKind className = some container ∧
                  app.index.class? className = some container := by
  intro always
  obtain ⟨_, _, other, _, reports, hidden⟩ := namespaces_read
  obtain ⟨app, log, opens, covered⟩ := always namespaceTree [] ['/'] _ find_namespaceTree
    complete_of_namespaceTree
  obtain ⟨container, known, _⟩ := covered ["coverage".toList] _ _
    (holds_namespaceTree_iff.mpr (.inr ⟨rfl, rfl, rfl⟩)) (by decide) _ reports
  obtain ⟨_, _, opensSo, _, built⟩ :=
    App.openAt_of_complete find_namespaceTree complete_of_namespaceTree
  rw [opens] at opensSo
  cases opensSo
  obtain ⟨_, member, opened⟩ := built.container?_isSome_iff.mp (Option.isSome_iff_exists.mpr ⟨_, known⟩)
  obtain ⟨file, inWalk, rfl⟩ := List.mem_map.mp member
  rcases mem_walk_of_namespaceTree inWalk with rfl | ⟨rfl, passable⟩
  · exact other opened
  · rw [hidden] at passable
    cases passable

end RouteReport
