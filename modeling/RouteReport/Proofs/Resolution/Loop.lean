import RouteReport.Proofs.Resolution.Asking

namespace RouteReport

theorem fix_map {α β γ δ : Type} {step : α →. β ⊕ α} {other : γ →. δ ⊕ γ} (place : α → γ)
    (result : β → δ) (same : ∀ a, other (place a) = (step a).map (Sum.map result place)) (a : α) :
    other.fix (place a) = (step.fix a).map result := by
  apply Part.ext
  intro d
  rw [Part.mem_map_iff]
  constructor
  · intro run
    -- From the image of a place the other side meets nothing but images of places.
    refine PFun.fixInduction' (C := fun c => ∀ a, c = place a → ∃ b ∈ step.fix a, result b = d)
      run ?_ ?_ a rfl
    · rintro _ halted a rfl
      rw [same, Part.mem_map_iff] at halted
      obtain ⟨b | next, stepped, made⟩ := halted
      · exact ⟨b, PFun.fix_stop stepped, Sum.inl.inj made⟩
      · cases made
    · rintro _ _ _ onward later a rfl
      rw [same, Part.mem_map_iff] at onward
      obtain ⟨b | next, stepped, made⟩ := onward
      · cases made
      · rw [PFun.fix_fwd_eq stepped]
        exact later next (Sum.inr.inj made).symm
  · rintro ⟨b, run, rfl⟩
    refine PFun.fixInduction' run ?_ ?_
    · intro a halted
      exact PFun.fix_stop (same a ▸ Part.mem_map (Sum.map result place) halted)
    · intro a next _ onward later
      rw [PFun.fix_fwd_eq (same a ▸ Part.mem_map (Sum.map result place) onward)]
      exact later

variable {ε σ : Type}

namespace Search

variable {lookups : Lookups (Asking ε σ)} {name : Text}

section Advance

variable {visited : List Text} {container : Container} {world after : σ}

theorem advance_of_visited (met : container.qualifiedName ∈ visited) :
    advance lookups name ⟨visited, container, world⟩ =
      .inl (.ok (.cycle container.qualifiedName), world) :=
  if_pos (List.contains_iff_mem.mpr met)

variable (fresh : container.qualifiedName ∉ visited)

include fresh

theorem advance_of_ended {search : Search}
    (asked : (round lookups name container).ask world = (.ok (.ended search), after)) :
    advance lookups name ⟨visited, container, world⟩ = .inl (.ok search, after) := by
  rw [advance, if_neg (mt List.contains_iff_mem.mp fresh), asked]

theorem advance_of_failed {failure : ε}
    (asked : (round lookups name container).ask world = (.error failure, after)) :
    advance lookups name ⟨visited, container, world⟩ = .inl (.error failure, after) := by
  rw [advance, if_neg (mt List.contains_iff_mem.mp fresh), asked]

theorem advance_of_inherits {parent : Container}
    (asked : (round lookups name container).ask world = (.ok (.inherits parent), after)) :
    advance lookups name ⟨visited, container, world⟩ =
      .inr ⟨container.qualifiedName :: visited, parent, after⟩ := by
  rw [advance, if_neg (mt List.contains_iff_mem.mp fresh), asked]

end Advance

variable {place next : Place σ} {finish : Except ε Search × σ}

theorem loop_of_inl (halted : advance lookups name place = .inl finish) :
    loop lookups name place = Part.some finish :=
  Part.eq_some_iff.mpr (PFun.fix_stop (by rw [halted]; exact Part.mem_some _))

theorem loop_of_inr (onward : advance lookups name place = .inr next) :
    loop lookups name place = loop lookups name next :=
  PFun.fix_fwd_eq (by rw [onward]; exact Part.mem_some _)

theorem method_name_of_advance (halted : advance lookups name place = .inl finish) {search : Search}
    (found : finish.1 = .ok search) : ∀ method ∈ search.method?, method.name = name := by
  obtain ⟨visited, container, world⟩ := place
  by_cases met : container.qualifiedName ∈ visited
  · rw [advance_of_visited met] at halted
    cases halted
    cases found
    simp [Search.method?]
  · rcases asked : (round lookups name container).ask world with ⟨failure | search | parent, after⟩
    · rw [advance_of_failed met asked] at halted
      cases halted
      cases found
    · rw [advance_of_ended met asked] at halted
      cases halted
      cases found
      have classes : lookups.Classes fun _ => True :=
        ⟨fun _ _ _ _ _ _ _ => trivial, fun _ _ _ _ _ _ _ => trivial⟩
      exact ensures_round lookups name classes _ _ _ _ asked
    · rw [advance_of_inherits met asked] at halted
      cases halted

theorem method_name_of_loop (run : finish ∈ loop lookups name place) {search : Search}
    (found : finish.1 = .ok search) : ∀ method ∈ search.method?, method.name = name := by
  refine PFun.fixInduction' run ?_ ?_
  · intro place halted
    exact method_name_of_advance (Part.mem_some_iff.mp halted).symm found
  · intro _ _ _ _ named
    exact named

section Watched

def Place.watched (place : Place σ) (raised : List ε) : Place (σ × List ε) :=
  ⟨place.visited, place.container, place.world, raised⟩

def withRaised (raised : List ε) (finish : Except ε Search × σ) : Except ε Search × σ × List ε :=
  (finish.1, finish.2, raised ++ raisedBy finish.1)

theorem advance_watched (place : Place σ) (raised : List ε) :
    advance lookups.watched name (place.watched raised) =
      (advance lookups name place).map (withRaised raised) (·.watched raised) := by
  obtain ⟨visited, container, world⟩ := place
  by_cases met : container.qualifiedName ∈ visited
  · rw [advance_of_visited met, Place.watched, advance_of_visited met]
    simp [withRaised, raisedBy]
  · have watched := ask_round_watched lookups name container (world, raised)
    rw [Asking.ask_watched] at watched
    rcases asked : (round lookups name container).ask world with ⟨failure | search | parent, after⟩
    all_goals
      rw [asked] at watched
    · rw [advance_of_failed met asked]
      exact advance_of_failed met watched
    · rw [advance_of_ended met asked]
      exact advance_of_ended met watched
    · rw [advance_of_inherits met asked]
      have onward := advance_of_inherits met watched
      rw [raisedBy, List.append_nil] at onward
      exact onward

theorem loop_watched (place : Place σ) (raised : List ε) :
    loop lookups.watched name (place.watched raised) =
      (loop lookups name place).map (withRaised raised) := by
  refine fix_map (fun place => place.watched raised) (withRaised raised) ?_ place
  intro place
  rw [advance_watched, Part.map_some]

end Watched

end Search

end RouteReport
