import RouteReport.Proofs.Resolution.Loop

/-! Nothing of an earlier record is left by an update. A lookup that fails, wherever in the search it
does, ends the update with its failure, and then nothing is resolved. -/

namespace RouteReport

variable {ε σ α β : Type}

namespace Recording

theorem run_store_bind (record earlier : Action) (next : Unit → Recording ε σ β) (world : σ) :
    (store record >>= next).run.run (earlier, world) = (next ()).run.run (record, world) := by
  change (Part.some (Except.ok (), (record, world))).bind
    (fun state => ExceptT.bindCont next state.1 state.2) = _
  rw [Part.bind_some]
  rfl

theorem run_asking_bind (run : σ → Part (Except ε α × σ)) (next : α → Recording ε σ β) (record : Action)
    (world : σ) : (asking run >>= next).run.run (record, world) =
      (run world).bind fun (result, after) => match result with
        | .ok a => (next a).run.run (record, after)
        | .error failure => Part.some (.error failure, record, after) := by
  change ((run world).map fun finish => (finish.1, (record, finish.2))).bind
    (fun state => ExceptT.bindCont next state.1 state.2) = _
  rw [Part.bind_map]
  congr 1
  funext finish
  rcases finish with ⟨_ | _, _⟩ <;> rfl

end Recording

namespace Action

def settled (controller action : Text) (controllerClass : Option Container) :
    Except ε Search × σ → Except ε Log × Action × σ
  | (.ok search, after) =>
    let found : Action := ⟨controllerClass, search.method?⟩
    (.ok (search.log ++ resolvedLog controller action found), found, after)
  | (.error failure, after) => (.error failure, unresolved, after)

theorem updated_of_unresolved (context : Option (Lookups (Asking ε σ))) (controller action : Text)
    (earlier : Action) (world : σ) : updated context controller action earlier world =
      updated context controller action unresolved world := by
  simp only [updated, update, Recording.run_store_bind]

variable {lookups : Lookups (Asking ε σ)} {controller action : Text}

theorem updated_of_nowhere (context : Option (Lookups (Asking ε σ)))
    (nowhere : context = none ∨ controller.isEmpty = true) (earlier : Action) (world : σ) :
    updated context controller action earlier world = Part.some (.ok [], unresolved, world) := by
  simp only [updated, update, Recording.run_store_bind]
  cases context with
  | none => rfl
  | some lookups =>
    simp only [if_pos (nowhere.resolve_left (Option.some_ne_none _))]
    rfl

theorem updated_eq (named : controller.isEmpty = false) (earlier : Action) (world : σ) :
    updated (some lookups) controller action earlier world =
      match (lookups.controller? controller).ask world with
      | (.error failure, after) => Part.some (.error failure, unresolved, after)
      | (.ok controllerClass, between) =>
        (search lookups action controllerClass between).map
          (settled controller action controllerClass) := by
  simp only [updated, update, Recording.run_store_bind, if_neg (Bool.eq_false_iff.mp named)]
  rw [fill, Recording.run_asking_bind, Part.bind_some]
  rcases (lookups.controller? controller).ask world with ⟨failure | controllerClass, between⟩
  · rfl
  · simp only [Recording.run_asking_bind]
    rw [← Part.bind_some_eq_map]
    congr 1
    funext finish
    rcases finish with ⟨failure | found, after⟩
    · rfl
    · exact Recording.run_store_bind _ _ _ _

theorem updated_cases {context : Option (Lookups (Asking ε σ))} {earlier record : Action}
    {world after : σ} {result : Except ε Log}
    (done : (result, record, after) ∈ updated context controller action earlier world) :
    (record = unresolved ∧ (result = .ok [] ∨ ∃ failure, result = .error failure)) ∨
      ∃ lookups controllerClass between found, context = some lookups ∧
        (lookups.controller? controller).ask world = (.ok controllerClass, between) ∧
        (.ok found, after) ∈ search lookups action controllerClass between ∧
        record = ⟨controllerClass, found.method?⟩ ∧
        result = .ok (found.log ++ resolvedLog controller action record) := by
  by_cases nowhere : context = none ∨ controller.isEmpty = true
  · rw [updated_of_nowhere context nowhere, Part.mem_some_iff] at done
    cases done
    exact .inl ⟨rfl, .inl rfl⟩
  · obtain ⟨lookups, rfl⟩ := Option.ne_none_iff_exists'.mp (not_or.mp nowhere).1
    rw [updated_eq (Bool.eq_false_iff.mpr (not_or.mp nowhere).2)] at done
    rcases asked : (lookups.controller? controller).ask world with ⟨failure | controllerClass, between⟩
    all_goals
      rw [asked] at done
    · cases Part.mem_some_iff.mp done
      exact .inl ⟨rfl, .inr ⟨failure, rfl⟩⟩
    · obtain ⟨⟨failure | found, _⟩, searched, stored⟩ := (Part.mem_map_iff _).mp done
      · cases stored
        exact .inl ⟨rfl, .inr ⟨failure, rfl⟩⟩
      · cases stored
        exact .inr ⟨lookups, controllerClass, between, found, rfl, asked, searched, rfl, rfl⟩

theorem search_method {controllerClass : Option Container} {between after : σ} {found : Search}
    (searched : (.ok found, after) ∈ search lookups action controllerClass between) :
    ∀ method ∈ found.method?, controllerClass.isSome = true ∧ method.name = action := by
  intro method hit
  cases controllerClass with
  | none =>
    cases Part.mem_some_iff.mp searched
    cases hit
  | some container =>
    refine ⟨rfl, ?_⟩
    by_cases empty : action.isEmpty = true
    · simp only [search, if_pos empty] at searched
      cases Part.mem_some_iff.mp searched
      cases hit
    · simp only [search, if_neg empty] at searched
      exact Search.method_name_of_loop searched rfl method hit

section Watched

variable (lookups) (controller action)

theorem search_watched (controllerClass : Option Container) (world : σ) (raised : List ε) :
    search lookups.watched action controllerClass (world, raised) =
      (search lookups action controllerClass world).map (Search.withRaised raised) := by
  cases controllerClass with
  | none => simp [search, Search.withRaised, raisedBy]
  | some container =>
    by_cases empty : action.isEmpty = true
    · simp [search, empty, Search.withRaised, raisedBy]
    · simp only [search, if_neg empty]
      exact Search.loop_watched ⟨[], container, world⟩ raised

theorem updated_watched (context : Option (Lookups (Asking ε σ))) (earlier : Action) (world : σ) :
    updated (context.map Lookups.watched) controller action earlier (world, []) =
      (updated context controller action earlier world).map fun (result, record, after) =>
        (result, record, after, raisedBy result) := by
  by_cases nowhere : context = none ∨ controller.isEmpty = true
  · rw [updated_of_nowhere context nowhere, updated_of_nowhere _ (by simpa using nowhere)]
    simp [raisedBy]
  · obtain ⟨lookups, rfl⟩ := Option.ne_none_iff_exists'.mp (not_or.mp nowhere).1
    have named := Bool.eq_false_iff.mpr (not_or.mp nowhere).2
    rw [Option.map_some, updated_eq named, updated_eq named, Lookups.ask_controller?_watched,
      Asking.ask_watched]
    rcases (lookups.controller? controller).ask world with ⟨failure | controllerClass, between⟩
    · simp [raisedBy]
    · simp only [search_watched, raisedBy, List.append_nil, Part.map_map]
      congr 1
      funext finish
      rcases finish with ⟨_ | _, _⟩ <;> rfl

end Watched

/-- The places that the search of an update comes to, whether or not the update ends. -/
inductive Comes (lookups : Lookups (Asking ε σ)) (controller action : Text) (start : σ) :
    Search.Place σ → Prop where
  | first {container : Container} {world : σ} (named : action.isEmpty = false)
      (asked : (lookups.controller? controller).ask start = (.ok (some container), world)) :
      Comes lookups controller action start ⟨[], container, world⟩
  | next {place further : Search.Place σ} (before : Comes lookups controller action start place)
      (onward : Search.advance lookups action place = .inr further) :
      Comes lookups controller action start further

/-- The worlds that are left after the lookups of the class, and after each round of the search. -/
inductive Leaves (lookups : Lookups (Asking ε σ)) (controller action : Text) (start : σ) : σ → Prop where
  | controller : Leaves lookups controller action start ((lookups.controller? controller).ask start).2
  | round {place : Search.Place σ} (before : Comes lookups controller action start place)
      (fresh : place.container.qualifiedName ∉ place.visited) :
      Leaves lookups controller action start
        ((Search.round lookups action place.container).ask place.world).2

theorem named_of_asked {world after : σ} {result : Except ε (Option Container)}
    (asked : (lookups.controller? controller).ask world = (result, after)) (some_class : result ≠ .ok none) :
    controller.isEmpty = false := by
  by_contra empty
  rw [Bool.not_eq_false] at empty
  rw [Lookups.controller?, if_pos empty, Asking.ask_pure] at asked
  cases asked
  exact some_class rfl

theorem updated_of_controller_failed {failure : ε} {world after : σ}
    (asked : (lookups.controller? controller).ask world = (.error failure, after)) (earlier : Action) :
    updated (some lookups) controller action earlier world =
      Part.some (.error failure, unresolved, after) := by
  rw [updated_eq (named_of_asked asked (by simp)), asked]

theorem Comes.updated_of_failed {start after : σ} {place : Search.Place σ} {failure : ε}
    (comes : Comes lookups controller action start place)
    (failed : Search.loop lookups action place = Part.some (.error failure, after)) (earlier : Action) :
    updated (some lookups) controller action earlier start =
      Part.some (.error failure, unresolved, after) := by
  induction comes with
  | first named asked =>
    rw [updated_eq (named_of_asked asked (by simp)), asked]
    simp only [search, if_neg (Bool.eq_false_iff.mp named), failed, Part.map_some]
    rfl
  | next _ onward ih => exact ih ((Search.loop_of_inr onward).trans failed)

theorem Comes.of_watched {start : σ} {place : Search.Place (σ × List ε)}
    (comes : Comes lookups.watched controller action (start, []) place) :
    ∃ unwatched, Comes lookups controller action start unwatched ∧ place = unwatched.watched [] := by
  -- A failure halts the search, so nothing is noted by a step that leads further.
  induction comes with
  | first named asked =>
    rw [Lookups.ask_controller?_watched, Asking.ask_watched] at asked
    rcases given : (lookups.controller? controller).ask start with ⟨_ | _, world⟩
    all_goals
      rw [given] at asked
      cases asked
    exact ⟨_, .first named given, rfl⟩
  | next _ onward ih =>
    obtain ⟨unwatched, comes, rfl⟩ := ih
    rw [Search.advance_watched] at onward
    rcases stepped : Search.advance lookups action unwatched with finish | further
    all_goals
      rw [stepped] at onward
      cases onward
    exact ⟨further, .next comes stepped, rfl⟩

theorem Leaves.updated_of_raised {world : σ} {finish : σ × List ε}
    (leaves : Leaves lookups.watched controller action (world, []) finish)
    (noted : finish.2 ≠ []) (earlier : Action) :
    ∃ failure, finish.2 = [failure] ∧ updated (some lookups) controller action earlier world =
      Part.some (.error failure, unresolved, finish.1) := by
  cases leaves with
  | controller =>
    rw [Lookups.ask_controller?_watched, Asking.ask_watched] at noted ⊢
    rcases asked : (lookups.controller? controller).ask world with ⟨failure | _, after⟩
    · exact ⟨failure, rfl, updated_of_controller_failed asked earlier⟩
    · rw [asked] at noted
      exact absurd rfl noted
  | round before fresh =>
    obtain ⟨place, comes, rfl⟩ := before.of_watched
    obtain ⟨visited, container, between⟩ := place
    simp only [Search.Place.watched, Search.ask_round_watched, Asking.ask_watched] at noted ⊢
    rcases asked : (Search.round lookups action container).ask between with ⟨failure | _, after⟩
    · have failed := Search.loop_of_inl (Search.advance_of_failed fresh asked)
      exact ⟨failure, rfl, comes.updated_of_failed failed earlier⟩
    · rw [asked] at noted
      exact absurd rfl noted

/-- The records that updates lead to, whatever they looked into, beside the action that the last one
asked for. -/
inductive Reached : Option Text → Action → Prop where
  | new : Reached none unresolved
  | updated {ε σ : Type} {context : Option (Lookups (Asking ε σ))} {controller action : Text}
      {requested : Option Text} {earlier record : Action} {world after : σ} {result : Except ε Log}
      (before : Reached requested earlier)
      (done : (result, record, after) ∈ updated context controller action earlier world) :
      Reached (some action) record

theorem isResolved_iff (record : Action) :
    record.isResolved = true ↔ record.status ≠ .unresolved ∧ record.icon ≠ .error := by
  obtain ⟨_, _ | method⟩ := record
  · simp [isResolved, status, icon]
  · by_cases isPublic : method.visibility = .publicMethod <;> simp [isResolved, status, icon, isPublic]

end Action

/-- An update leaves what a fresh resolution in the same world returns, or it fails and leaves nothing.
It fails if a lookup does, with that failure, whether the lookup is for the class or for any class that
the search comes to; no failure is passed over. A method is only ever stored with a class, under the
name that was asked for. -/
theorem update_atomic :
    (∀ {ε σ : Type} (context : Option (Lookups (Asking ε σ))) (controller action : Text)
        (earlier : Action) (world : σ),
      Action.updated context controller action earlier world =
          Action.updated context controller action .unresolved world ∧
        (∀ result record after,
          (result, record, after) ∈ Action.updated context controller action earlier world →
            (result.map fun _ => record, after) ∈
                Action.resolveFresh context controller action world ∧
              ∀ failure, result = .error failure → record = .unresolved) ∧
        Action.updated (context.map Lookups.watched) controller action earlier (world, []) =
          (Action.updated context controller action earlier world).map
            (fun (result, record, after) => (result, record, after, raisedBy result)) ∧
        ∀ lookups, context = some lookups → ∀ finish : σ × List ε,
          Action.Leaves lookups.watched controller action (world, []) finish → finish.2 ≠ [] →
            ∃ failure, finish.2 = [failure] ∧
              Action.updated context controller action earlier world =
                Part.some (.error failure, .unresolved, finish.1)) ∧
      ∀ requested record, Action.Reached requested record →
        (∀ method, record.method = some method →
          record.controllerClass.isSome = true ∧ requested = some method.name) ∧
          (record.isResolved = true ↔ record.status ≠ .unresolved ∧ record.icon ≠ .error) := by
  constructor
  · intro ε σ context controller action earlier world
    have forgets := Action.updated_of_unresolved context controller action earlier world
    refine ⟨forgets, ?_, Action.updated_watched controller action context earlier world, ?_⟩
    · intro result record after done
      constructor
      · rw [forgets] at done
        exact Part.mem_map (fun (result, record, after) => (result.map fun _ => record, after)) done
      · rintro failure rfl
        rcases Action.updated_cases done with ⟨unresolved, _⟩ | ⟨_, _, _, _, _, _, _, _, succeeded⟩
        · exact unresolved
        · cases succeeded
    · rintro lookups rfl finish leaves noted
      exact leaves.updated_of_raised noted earlier
  · intro requested record reached
    refine ⟨?_, record.isResolved_iff⟩
    intro method stored
    cases reached with
    | new => cases stored
    | updated _ done =>
      rcases Action.updated_cases done with ⟨rfl, _⟩ | ⟨_, _, _, found, _, _, searched, rfl, _⟩
      · cases stored
      · obtain ⟨known, named⟩ := Action.search_method searched method stored
        exact ⟨known, congrArg some named.symm⟩

def brittleMethod : Method :=
  ⟨"show".toList, .classKind, "UsersController".toList, .publicMethod, 0, "/users.rb".toList, 3⟩

def brittleClass : Container :=
  ⟨.classKind, "UsersController".toList, none, ["Paging".toList], ["/users.rb".toList],
    [brittleMethod]⟩

def brittleLookups : Lookups (Asking Text Nat) where
  classNames := [brittleClass.qualifiedName]
  ownController _ := do
    modify (· + 1)
    return none
  anyController _ := return some brittleClass
  moduleNamed _ := throw "index corrupted".toList

theorem brittle_class (world : Nat) : (brittleLookups.controller? "users".toList).ask world =
    (.ok (some brittleClass), world + 1) := rfl

theorem brittle_found (world : Nat) :
    (Search.round brittleLookups "show".toList brittleClass).ask world =
      (.ok (.ended (.found brittleMethod)), world) := rfl

theorem brittle_failed (world : Nat) :
    (Search.round brittleLookups "index".toList brittleClass).ask world =
      (.error "index corrupted".toList, world) := by
  have candidates : lexicalCandidates "Paging".toList brittleClass.qualifiedName =
      ["UsersController::Paging".toList, "Paging".toList] := by decide +kernel
  have failing : brittleLookups.moduleIn? "Paging".toList brittleClass.qualifiedName =
      throw "index corrupted".toList := by
    rw [Lookups.moduleIn?, candidates]
    rfl
  have mixedIn : brittleLookups.mixedIn? brittleClass "index".toList =
      throw "index corrupted".toList := by
    change [_].findSomeM? _ = _
    rw [List.findSomeM?, failing]
    rfl
  rw [Search.round, mixedIn]
  rfl

theorem update_atomic_of_brittle :
    ∃ log record, Action.updated (some brittleLookups) "users".toList "show".toList .unresolved 0 =
        Part.some (.ok log, record, 1) ∧
      record.method = some brittleMethod ∧ record.controllerClass.isSome = true ∧
      record.isResolved = true ∧
      Action.updated (some brittleLookups) "users".toList "index".toList record 1 =
        Part.some (.error "index corrupted".toList, .unresolved, 2) ∧
      (.error "index corrupted".toList, 2) ∈
        Action.resolveFresh (some brittleLookups) "users".toList "index".toList 1 := by
  obtain ⟨steps, states⟩ := update_atomic
  have ended := Search.loop_of_inl (Search.advance_of_ended List.not_mem_nil (brittle_found 1))
  obtain ⟨log, shown⟩ : ∃ log, Action.updated (some brittleLookups) "users".toList "show".toList
      .unresolved 0 = Part.some (.ok log, ⟨some brittleClass, some brittleMethod⟩, 1) := by
    rw [Action.updated_eq rfl, brittle_class]
    exact ⟨_, (congrArg (Part.map _) ended).trans (Part.map_some _ _)⟩
  obtain ⟨named, resolved⟩ := states _ _ (.updated .new (Part.eq_some_iff.mp shown))
  obtain ⟨_, fresh, _, failing⟩ := steps (some brittleLookups) "users".toList "index".toList
    ⟨some brittleClass, some brittleMethod⟩ 1
  obtain ⟨failure, noted, failed⟩ := failing brittleLookups rfl _
    (.round (.first rfl (by rw [Lookups.ask_controller?_watched]; rfl)) List.not_mem_nil) (by
      rw [Search.ask_round_watched, Asking.ask_watched, brittle_failed]
      exact List.cons_ne_nil _ _)
  rw [Search.ask_round_watched, Asking.ask_watched, brittle_failed] at noted failed
  cases noted
  exact ⟨log, _, shown, rfl, (named brittleMethod rfl).1, resolved.mpr (by decide), failed,
    (fresh _ _ _ (Part.eq_some_iff.mp failed)).1⟩

end RouteReport
