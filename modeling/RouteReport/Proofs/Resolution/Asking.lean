import RouteReport.Proofs.Resolution.Correspondence
import RouteReport.Proofs.Resolution.Parents

namespace RouteReport

variable {ε σ α β : Type}

namespace Asking

@[simp]
theorem ask_pure (a : α) (world : σ) : (pure a : Asking ε σ α).ask world = (.ok a, world) := rfl

theorem ask_bind (first : Asking ε σ α) (next : α → Asking ε σ β) (world : σ) :
    (first >>= next).ask world = match first.ask world with
      | (.ok a, after) => (next a).ask after
      | (.error failure, after) => (.error failure, after) := by
  change (ExceptT.bindCont next (first.ask world).1).run (first.ask world).2 = _
  rcases first.ask world with ⟨_ | _, _⟩ <;> rfl

def Ensures (lookup : Asking ε σ α) (holds : α → Prop) : Prop :=
  ∀ world answer after, lookup.ask world = (.ok answer, after) → holds answer

theorem Ensures.pure {holds : α → Prop} {a : α} (here : holds a) :
    (pure a : Asking ε σ α).Ensures holds := by
  intro world answer after asked
  cases asked
  exact here

theorem Ensures.bind {first : Asking ε σ α} {next : α → Asking ε σ β} {holds : α → Prop}
    {later : β → Prop} (before : first.Ensures holds)
    (then_ : ∀ a, holds a → (next a).Ensures later) : (first >>= next).Ensures later := by
  intro world answer after asked
  rw [ask_bind] at asked
  rcases given : first.ask world with ⟨_ | a, between⟩
  · rw [given] at asked
    cases asked
  · rw [given] at asked
    exact then_ a (before _ _ _ given) _ _ _ asked

theorem ensures_true (lookup : Asking ε σ α) : lookup.Ensures fun _ => True :=
  fun _ _ _ _ => trivial

theorem ensures_findSomeM? {lookup : α → Asking ε σ (Option β)} {holds : β → Prop}
    (each : ∀ key, (lookup key).Ensures fun found => ∀ b ∈ found, holds b) (keys : List α) :
    (keys.findSomeM? lookup).Ensures fun found => ∀ b ∈ found, holds b := by
  induction keys with
  | nil => exact .pure (by simp)
  | cons key rest ih =>
    refine (each key).bind ?_
    intro found ofKey
    cases found with
    | none => exact ih
    | some b => exact .pure ofKey

end Asking

structure Lookups.Classes (lookups : Lookups (Asking ε σ)) (known : Container → Prop) : Prop where
  own : ∀ controller, (lookups.ownController controller).Ensures fun found => ∀ entry ∈ found, known entry
  any : ∀ className, (lookups.anyController className).Ensures fun found => ∀ entry ∈ found, known entry

namespace Lookups.Classes

variable {lookups : Lookups (Asking ε σ)} {known : Container → Prop} (classes : lookups.Classes known)

include classes

theorem controller? (controller : Text) :
    (lookups.controller? controller).Ensures fun found => ∀ entry ∈ found, known entry := by
  unfold Lookups.controller?
  split
  · exact .pure (by simp)
  · refine (classes.own controller).bind ?_
    intro found ofOwn
    cases found with
    | none => exact classes.any _
    | some _ => exact .pure ofOwn

theorem parent? (container : Container) :
    (lookups.parent? container).Ensures fun found => ∀ entry ∈ found, known entry := by
  unfold Lookups.parent?
  split
  · exact .pure (by simp)
  · split
    · exact .pure (by simp)
    · refine Asking.ensures_findSomeM? ?_ _
      intro candidate
      split
      · exact classes.controller? _
      · exact .pure (by simp)

end Lookups.Classes

namespace Search

variable (lookups : Lookups (Asking ε σ)) (name : Text)

theorem ensures_mixedIn? (container : Container) :
    (lookups.mixedIn? container name).Ensures fun found => ∀ method ∈ found, method.name = name := by
  refine Asking.ensures_findSomeM? ?_ _
  intro included
  refine (Asking.ensures_true _).bind ?_
  intro found _
  cases found with
  | none => exact .pure (by simp)
  | some mixin => exact .pure fun method hit => (Container.method?_mem hit).2

/-- A method that a round ends with has the name that is looked for; a class that it leads on to is
one that the lookups know. -/
def Round.Sound (name : Text) (known : Container → Prop) : Round → Prop
  | .ended search => ∀ method ∈ search.method?, method.name = name
  | .inherits parent => known parent

theorem ensures_round {known : Container → Prop} (classes : lookups.Classes known)
    (container : Container) : (round lookups name container).Ensures (Round.Sound name known) := by
  unfold round
  cases own : container.method? name with
  | some first =>
    refine .pure ?_
    intro method hit
    exact Option.some.inj hit ▸ (Container.method?_mem own).2
  | none =>
    refine (ensures_mixedIn? lookups name container).bind ?_
    intro mixedIn named
    cases mixedIn with
    | some first => exact .pure named
    | none =>
      refine (classes.parent? container).bind ?_
      intro parent ofParent
      cases parent with
      | some parent => exact .pure (ofParent parent rfl)
      | none => exact .pure (by simp [Round.Sound, Search.method?])

end Search

section Watched

/-- The failure of a result, if it is one. -/
def raisedBy : Except ε α → List ε
  | .ok _ => []
  | .error failure => [failure]

/-- A lookup that also notes each failure in its world. -/
def Asking.watched (lookup : Asking ε σ α) : Asking ε (σ × List ε) α :=
  ExceptT.mk fun (world, raised) =>
    ((lookup.ask world).1, (lookup.ask world).2, raised ++ raisedBy (lookup.ask world).1)

def Lookups.watched (lookups : Lookups (Asking ε σ)) : Lookups (Asking ε (σ × List ε)) :=
  lookups.answering Asking.watched

theorem Asking.ask_watched (lookup : Asking ε σ α) (start : σ × List ε) :
    lookup.watched.ask start = ((lookup.ask start.1).1, (lookup.ask start.1).2,
      start.2 ++ raisedBy (lookup.ask start.1).1) := rfl

def watching : Correspondence (Asking ε σ) (Asking ε (σ × List ε)) where
  Holds lookup other := ∀ start, other.ask start = lookup.watched.ask start
  pure a start := by simp [Asking.ask_watched, raisedBy]
  bind same later start := by
    rw [Asking.ask_bind, same, Asking.ask_watched, Asking.ask_watched, Asking.ask_bind]
    rcases Asking.ask _ start.1 with ⟨failure | a, between⟩
    · rfl
    · simp [later, Asking.ask_watched, raisedBy]

variable (lookups : Lookups (Asking ε σ)) (name : Text)

theorem Search.ask_round_watched (container : Container) (start : σ × List ε) :
    (round lookups.watched name container).ask start =
      (round lookups name container).watched.ask start :=
  watching.round (fun _ _ => rfl) name container start

theorem Lookups.ask_controller?_watched (controller : Text) (start : σ × List ε) :
    (lookups.watched.controller? controller).ask start =
      (lookups.controller? controller).watched.ask start :=
  watching.controller? (fun _ _ => rfl) controller start

end Watched

end RouteReport
