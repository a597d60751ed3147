import RouteReport.Index.Basic
import RouteReport.Proofs.FileTree.Names
import RouteReport.Proofs.Naming.Marks

/-! What lies under a directory. Two paths are compared as texts, but what decides are the places that they
lead to from the root, however the paths are written. -/

namespace RouteReport

namespace Path

/-- Goes along one component of a path, from a place given by the names on the way down to it. The root
is its own parent. -/
def follow (place : List Text) (component : Text) : List Text :=
  if component = [] ∨ component = ['.'] then place
  else if component = ['.', '.'] then place.dropLast
  else place ++ [component]

/-- The names on the way down from the root to where a path leads. -/
def placeOf (path : Text) : List Text := (path.splitOn '/').foldl follow []

/-- An absolute path that does not begin with exactly two slashes. -/
def IsRooted (path : Text) : Prop :=
  ['/'] <+: path ∧ (['/', '/'] <+: path → ['/', '/', '/'] <+: path)

instance (path : Text) : Decidable (IsRooted path) :=
  inferInstanceAs (Decidable (_ ∧ (_ → _)))

/-- Components that lead back to where they begin. -/
inductive Detour : List Text → Prop where
  | nowhere : Detour []
  | stay {component : Text} {rest : List Text} (idle : component = [] ∨ component = ['.'])
      (later : Detour rest) : Detour (component :: rest)
  | back {name : Text} {inner rest : List Text} (proper : IsComponent name) (below : Detour inner)
      (later : Detour rest) : Detour (name :: (inner ++ ['.', '.'] :: rest))

/-- The second path is the first one with a detour put between two of its components, or at its end. -/
def TakesDetour (path other : Text) : Prop :=
  ∃ front detour rest, Detour detour ∧ path.splitOn '/' = front ++ rest ∧
    other.splitOn '/' = front ++ (detour ++ rest)

section Walking

variable {place : List Text} {component name : Text}

theorem follow_idle (idle : component = [] ∨ component = ['.']) : follow place component = place :=
  if_pos idle

@[simp] theorem follow_up : follow place ['.', '.'] = place.dropLast := by
  simp [follow]

theorem follow_component (proper : IsComponent name) : follow place name = place ++ [name] := by
  simp [follow, proper.nonempty, proper.notHere, proper.notUp]

theorem follow_cases (place : List Text) {component : Text} (noSlash : '/' ∉ component) :
    (component = [] ∨ component = ['.']) ∧ follow place component = place ∨
      component = ['.', '.'] ∧ follow place component = place.dropLast ∨
        IsComponent component ∧ follow place component = place ++ [component] := by
  by_cases idle : component = [] ∨ component = ['.']
  · exact .inl ⟨idle, follow_idle idle⟩
  · by_cases up : component = ['.', '.']
    · exact .inr (.inl ⟨up, by rw [up, follow_up]⟩)
    · obtain ⟨nonempty, notHere⟩ := not_or.mp idle
      have proper : IsComponent component := ⟨nonempty, noSlash, notHere, up⟩
      exact .inr (.inr ⟨proper, follow_component proper⟩)

theorem proper_follow (proper : ∀ name ∈ place, IsComponent name) (noSlash : '/' ∉ component) :
    ∀ name ∈ follow place component, IsComponent name := by
  rcases follow_cases place noSlash with ⟨-, same⟩ | ⟨-, up⟩ | ⟨last, down⟩
  · rwa [same]
  · rw [up]
    exact fun name member => proper name (List.dropLast_subset place member)
  · rw [down]
    exact List.forall_mem_append.mpr ⟨proper, List.forall_mem_singleton.mpr last⟩

theorem proper_foldl_follow {route : List Text} (proper : ∀ name ∈ place, IsComponent name)
    (noSlash : ∀ component ∈ route, '/' ∉ component) :
    ∀ name ∈ route.foldl follow place, IsComponent name := by
  induction route generalizing place with
  | nil => exact proper
  | cons component rest ih =>
    obtain ⟨first, others⟩ := List.forall_mem_cons.mp noSlash
    exact ih (proper_follow proper first) others

theorem proper_placeOf (path : Text) : ∀ name ∈ placeOf path, IsComponent name :=
  proper_foldl_follow (List.forall_mem_nil _) fun _ member => Text.not_mem_of_mem_splitOn member

theorem foldl_follow_detour {detour : List Text} (leadsBack : Detour detour) (place : List Text) :
    detour.foldl follow place = place := by
  induction leadsBack generalizing place with
  | nowhere => rfl
  | stay idle later ih => rw [List.foldl_cons, follow_idle idle, ih]
  | back proper below later ihBelow ihLater =>
    rw [List.foldl_cons, follow_component proper, List.foldl_append, ihBelow, List.foldl_cons, follow_up,
      List.dropLast_concat, ihLater]

theorem placeOf_of_takesDetour {path other : Text} (longer : TakesDetour path other) :
    placeOf other = placeOf path := by
  obtain ⟨front, detour, rest, leadsBack, written, rewritten⟩ := longer
  simp only [placeOf, written, rewritten, List.foldl_append, foldl_follow_detour leadsBack]

theorem takesDetour_append {path tail : Text} (leadsBack : Detour (tail.splitOn '/')) :
    TakesDetour path (path ++ '/' :: tail) :=
  ⟨path.splitOn '/', tail.splitOn '/', [], leadsBack, (List.append_nil _).symm, by
    rw [Text.splitOn_append_cons, List.append_nil]⟩

theorem takesDetour_refl (path : Text) : TakesDetour path path :=
  ⟨path.splitOn '/', [], [], .nowhere, (List.append_nil _).symm, (List.append_nil _).symm⟩

theorem takesDetour_slash (path : Text) : TakesDetour path (path ++ ['/']) :=
  takesDetour_append (.stay (.inl rfl) .nowhere)

theorem not_prefix_of_longer_name {above place : List Text} {name more : Text} (longer : more ≠ [])
    (inside : above ++ [name ++ more] <+: place) : ¬ above ++ [name] <+: place := by
  intro other
  have sameLength : (above ++ [name]).length = (above ++ [name ++ more]).length := by simp
  have same := (List.prefix_of_prefix_length_le other inside sameLength.le).eq_of_length sameLength
  exact longer (by simpa using List.append_cancel_left same)

end Walking

section Resolution

variable {place : List Text}

theorem resolveStep_eq_follow (proper : ∀ name ∈ place, IsComponent name) {component : Text}
    (noSlash : '/' ∉ component) :
    resolveStep true place.reverse component = (follow place component).reverse := by
  rcases follow_cases place noSlash with ⟨rfl | rfl, same⟩ | ⟨rfl, up⟩ | ⟨last, down⟩
  · rw [same]
    rfl
  · rw [same]
    rfl
  · rw [up]
    induction place using List.reverseRecOn with
    | nil => rfl
    | append_singleton above name =>
      have named := (proper name List.mem_concat_self).notUp
      simp [resolveStep, named]
  · rw [down]
    simp [resolveStep, last.nonempty, last.notHere, last.notUp]

theorem foldl_resolveStep_eq_follow {route : List Text} (proper : ∀ name ∈ place, IsComponent name)
    (noSlash : ∀ component ∈ route, '/' ∉ component) :
    route.foldl (resolveStep true) place.reverse = (route.foldl follow place).reverse := by
  induction route generalizing place with
  | nil => rfl
  | cons component rest ih =>
    obtain ⟨first, others⟩ := List.forall_mem_cons.mp noSlash
    rw [List.foldl_cons, List.foldl_cons, resolveStep_eq_follow proper first,
      ih (proper_follow proper first) others]

variable {path : Text}

theorem isAbsolute_of_isRooted (rooted : IsRooted path) : isAbsolute path = true := by
  obtain ⟨⟨rest, rfl⟩, -⟩ := rooted
  rfl

theorem components_of_isRooted (rooted : IsRooted path) : components path = placeOf path := by
  have noSlash : ∀ component ∈ path.splitOn '/', '/' ∉ component :=
    fun _ member => Text.not_mem_of_mem_splitOn member
  have resolved := foldl_resolveStep_eq_follow (List.forall_mem_nil _) noSlash
  rw [List.reverse_nil] at resolved
  rw [components, isAbsolute_of_isRooted rooted, resolved, List.reverse_reverse, placeOf]

theorem rootOf_of_isRooted (rooted : IsRooted path) : rootOf path = ['/'] := by
  obtain ⟨⟨rest, rfl⟩, more⟩ := rooted
  cases rest with
  | nil => rfl
  | cons c others =>
    by_cases second : c = '/'
    · subst second
      obtain ⟨final, eq⟩ := more ⟨others, rfl⟩
      rw [← eq]
      rfl
    · simp [rootOf, second]

end Resolution

section Spelling

def spelled (place : List Text) : Text := place.flatMap ('/' :: ·)

theorem slash_join {place : List Text} (below : place ≠ []) :
    '/' :: Text.join ['/'] place = spelled place := by
  induction place with
  | nil => exact absurd rfl below
  | cons name rest ih =>
    cases rest with
    | nil => simp [Text.join, spelled]
    | cons next others =>
      have later := ih (List.cons_ne_nil next others)
      rw [spelled, List.flatMap_cons, ← spelled, ← later]
      simp [Text.join]

theorem asDirectory_slash_join {place : List Text} (proper : ∀ name ∈ place, IsComponent name) :
    asDirectory ('/' :: Text.join ['/'] place) = spelled place ++ ['/'] := by
  induction place using List.reverseRecOn with
  | nil => rfl
  | append_singleton above last ih =>
    have named := proper last List.mem_concat_self
    have front := ih fun name member => proper name (List.mem_append_left _ member)
    have joined : '/' :: Text.join ['/'] (above ++ [last]) =
        join ('/' :: Text.join ['/'] above) last := by
      rw [join_component _ named, front, slash_join (List.concat_ne_nil last above)]
      simp [spelled]
    rw [joined, asDirectory_join _ named, front]
    simp [spelled]

theorem name_prefix_iff {name other : Text} (noSlash : '/' ∉ name) (clean : '/' ∉ other)
    {rest tail : Text} (boundary : ∀ c, tail.head? = some c → c = '/') :
    name ++ '/' :: rest <+: other ++ tail ↔ name = other ∧ '/' :: rest <+: tail := by
  induction name generalizing other with
  | nil =>
    cases other with
    | nil => simp
    | cons d others =>
      have different : '/' ≠ d := fun same => clean (same ▸ List.mem_cons_self)
      simp [List.cons_prefix_cons, different]
  | cons c name ih =>
    obtain ⟨first, later⟩ : '/' ≠ c ∧ '/' ∉ name := by simpa using noSlash
    cases other with
    | nil =>
      refine iff_of_false ?_ (by simp)
      intro starts
      obtain ⟨more, eq⟩ := starts
      exact first (boundary c (by rw [← List.nil_append tail, ← eq]; rfl)).symm
    | cons d others =>
      have clear : '/' ∉ others := fun member => clean (List.mem_cons_of_mem d member)
      rw [List.cons_append, List.cons_append, List.cons_prefix_cons, ih later clear, List.cons.injEq,
        and_assoc]

theorem head_spelled {place : List Text} {c : Char} (first : (spelled place).head? = some c) :
    c = '/' := by
  cases place with
  | nil => cases first
  | cons name rest => exact (Option.some.inj first).symm

theorem spelled_slash_prefix_iff {place other : List Text} (proper : ∀ name ∈ place, IsComponent name)
    (clean : ∀ name ∈ other, IsComponent name) :
    spelled place ++ ['/'] <+: spelled other ↔ place <+: other ∧ place ≠ other := by
  induction place generalizing other with
  | nil =>
    cases other with
    | nil => simp [spelled]
    | cons name rest => simp [spelled]
  | cons name place ih =>
    cases other with
    | nil => simp [spelled]
    | cons next other =>
      obtain ⟨first, others⟩ := List.forall_mem_cons.mp proper
      obtain ⟨second, more⟩ := List.forall_mem_cons.mp clean
      obtain ⟨tail, shape⟩ : ∃ tail, spelled place ++ ['/'] = '/' :: tail := by
        cases place <;> exact ⟨_, rfl⟩
      have whole : spelled (name :: place) ++ ['/'] = '/' :: (name ++ '/' :: tail) := by
        rw [← shape]
        simp [spelled]
      have against : spelled (next :: other) = '/' :: (next ++ spelled other) := rfl
      rw [whole, against, List.cons_prefix_cons,
        name_prefix_iff first.noSlash second.noSlash (fun c => head_spelled), ← shape, ih others more,
        List.cons_prefix_cons]
      simp only [ne_eq, List.cons.injEq, true_and]
      tauto

variable {path : Text} (rooted : IsRooted path) (base : Text)

include rooted

theorem absolute_of_isRooted : absolute base path = '/' :: Text.join ['/'] (placeOf path) := by
  rw [absolute, join, isAbsolute_of_isRooted rooted, if_pos rfl, normalize, rootOf_of_isRooted rooted,
    components_of_isRooted rooted]
  rfl

theorem absolute_eq_spelled (below : placeOf path ≠ []) :
    absolute base path = spelled (placeOf path) := by
  rw [absolute_of_isRooted rooted, slash_join below]

theorem asDirectory_absolute :
    asDirectory (absolute base path) = spelled (placeOf path) ++ ['/'] := by
  rw [absolute_of_isRooted rooted, asDirectory_slash_join (proper_placeOf path)]

end Spelling

end Path

namespace Container

open RouteReport.Path

variable {container : Container} {directory : Text} (base : Text)

theorem isDefinedUnder_iff (rooted : IsRooted directory)
    (sources : ∀ file ∈ container.files, IsRooted file ∧ placeOf file ≠ []) :
    container.isDefinedUnder directory base = true ↔
      ∃ file ∈ container.files, placeOf directory <+: placeOf file ∧ placeOf directory ≠ placeOf file := by
  simp only [isDefinedUnder, List.any_eq_true, List.isPrefixOf_iff_prefix]
  refine exists_congr fun file => and_congr_right fun member => ?_
  obtain ⟨rootedFile, below⟩ := sources file member
  rw [asDirectory_absolute rooted, absolute_eq_spelled rootedFile _ below,
    spelled_slash_prefix_iff (proper_placeOf directory) (proper_placeOf file)]

theorem map_placeOf_of_takesDetour {files others : List Text}
    (longer : List.Forall₂ TakesDetour files others) : others.map placeOf = files.map placeOf := by
  induction longer with
  | nil => rfl
  | cons first _ ih => rw [List.map_cons, List.map_cons, placeOf_of_takesDetour first, ih]

theorem isDefinedUnder_congr {other : Container} {folder : Text} (rooted : IsRooted directory)
    (rootedFolder : IsRooted folder)
    (sources : ∀ file ∈ container.files, IsRooted file ∧ placeOf file ≠ [])
    (rootedFiles : ∀ file ∈ other.files, IsRooted file)
    (samePlace : placeOf folder = placeOf directory)
    (samePlaces : other.files.map placeOf = container.files.map placeOf) :
    other.isDefinedUnder folder base = container.isDefinedUnder directory base := by
  have below : ∀ file ∈ other.files, IsRooted file ∧ placeOf file ≠ [] := by
    intro file member
    have listed : placeOf file ∈ container.files.map placeOf :=
      samePlaces ▸ List.mem_map_of_mem member
    obtain ⟨source, among, eq⟩ := List.mem_map.mp listed
    exact ⟨rootedFiles file member, eq ▸ (sources source among).2⟩
  have places : ∀ holder : Container,
      (∃ file ∈ holder.files, placeOf directory <+: placeOf file ∧ placeOf directory ≠ placeOf file) ↔
        ∃ place ∈ holder.files.map placeOf, placeOf directory <+: place ∧ placeOf directory ≠ place := by
    simp
  rw [Bool.eq_iff_iff, isDefinedUnder_iff base rootedFolder below, isDefinedUnder_iff base rooted sources,
    samePlace, places, places, samePlaces]

theorem isDefinedUnder_append_files {beside : List Text} (rooted : IsRooted directory)
    (sources : ∀ file ∈ container.files, IsRooted file ∧ placeOf file ≠ [])
    (elsewhere : ∀ file ∈ beside, IsRooted file ∧ placeOf file ≠ [])
    (outside : ∀ file ∈ beside, ¬ placeOf directory <+: placeOf file) :
    { container with files := container.files ++ beside }.isDefinedUnder directory base =
      container.isDefinedUnder directory base := by
  rw [Bool.eq_iff_iff, isDefinedUnder_iff base rooted (List.forall_mem_append.mpr ⟨sources, elsewhere⟩),
    isDefinedUnder_iff base rooted sources]
  constructor
  · rintro ⟨file, member, inside, apart⟩
    rcases List.mem_append.mp member with own | other
    · exact ⟨file, own, inside, apart⟩
    · exact absurd inside (outside file other)
  · rintro ⟨file, member, inside, apart⟩
    exact ⟨file, List.mem_append_left beside member, inside, apart⟩

/-- A class lies under a directory just when the place of one of its files is further down the way than
that of the directory. So neither slashes at the end nor detours make a difference, and neither do files in
a directory whose name only begins like that of the other. -/
theorem isDefinedUnder_iff_places (rooted : IsRooted directory)
    (sources : ∀ file ∈ container.files, IsRooted file ∧ placeOf file ≠ []) :
    (container.isDefinedUnder directory base = true ↔
        ∃ file ∈ container.files,
          placeOf directory <+: placeOf file ∧ placeOf directory ≠ placeOf file) ∧
      (∀ (folder : Text) (files : List Text), IsRooted folder → (∀ file ∈ files, IsRooted file) →
        TakesDetour directory folder → List.Forall₂ TakesDetour container.files files →
          { container with files }.isDefinedUnder folder base = container.isDefinedUnder directory base) ∧
      ∀ (above : List Text) (name more : Text) (beside : List Text),
        placeOf directory = above ++ [name] → more ≠ [] →
          (∀ file ∈ beside, IsRooted file ∧ above ++ [name ++ more] <+: placeOf file) →
            { container with files := container.files ++ beside }.isDefinedUnder directory base =
              container.isDefinedUnder directory base := by
  refine ⟨isDefinedUnder_iff base rooted sources, ?_, ?_⟩
  · intro folder files rootedFolder rootedFiles longer longerFiles
    exact isDefinedUnder_congr base rooted rootedFolder sources rootedFiles (placeOf_of_takesDetour longer)
      (map_placeOf_of_takesDetour longerFiles)
  · intro above name more beside place longer elsewhere
    apply isDefinedUnder_append_files base rooted sources
    · intro file member
      obtain ⟨rootedFile, inside⟩ := elsewhere file member
      exact ⟨rootedFile, fun top => by simp [top] at inside⟩
    · intro file member
      rw [place]
      exact not_prefix_of_longer_name longer (elsewhere file member).2

def wanderingClass : Container :=
  { Container.new .classKind "UsersController".toList with
    files := ["/srv/lib/../app//controllers/users_controller.rb".toList] }

theorem isDefinedUnder_of_wanderingClass :
    IsRooted "/srv/app/controllers".toList ∧
      (∀ file ∈ wanderingClass.files, IsRooted file ∧ placeOf file ≠ []) ∧
      wanderingClass.isDefinedUnder "/srv/app/controllers".toList = true ∧
      wanderingClass.isDefinedUnder "/srv/app/controllers/".toList = true ∧
      { wanderingClass with
        files := wanderingClass.files ++ ["/srv/app/controllers_old/users_controller.rb".toList]
          }.isDefinedUnder "/srv/app/controllers".toList = true := by
  have rooted : IsRooted "/srv/app/controllers".toList := by decide
  have sources : ∀ file ∈ wanderingClass.files, IsRooted file ∧ placeOf file ≠ [] := by decide
  obtain ⟨decided, detours, beside⟩ := isDefinedUnder_iff_places ['/'] rooted sources
  have inside : wanderingClass.isDefinedUnder "/srv/app/controllers".toList = true :=
    decided.mpr (by decide)
  refine ⟨rooted, sources, inside, ?_, ?_⟩
  · rw [← inside]
    exact detours "/srv/app/controllers/".toList wanderingClass.files (by decide) (by decide)
      (takesDetour_slash "/srv/app/controllers".toList) (.cons (takesDetour_refl _) .nil)
  · rw [← inside]
    exact beside ["srv".toList, "app".toList] "controllers".toList "_old".toList _ (by decide)
      (by decide) (by decide)

end Container

end RouteReport
