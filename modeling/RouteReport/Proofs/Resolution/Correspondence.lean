import RouteReport.Resolution.Update

namespace RouteReport

structure Correspondence (m n : Type → Type) [Monad m] [Monad n] where
  Holds : {α : Type} → m α → n α → Prop
  pure : ∀ {α : Type} (a : α), Holds (pure a) (pure a)
  bind : ∀ {α β : Type} {first : m α} {second : n α} {next : α → m β} {follow : α → n β},
    Holds first second → (∀ a, Holds (next a) (follow a)) →
      Holds (first >>= next) (second >>= follow)

/-- The same lookups with their answers given in another way. -/
def Lookups.answering (lookups : Lookups m)
    (way : m (Option Container) → n (Option Container)) : Lookups n where
  classNames := lookups.classNames
  ownController controller := way (lookups.ownController controller)
  anyController className := way (lookups.anyController className)
  moduleNamed name := way (lookups.moduleNamed name)

namespace Correspondence

variable {m n : Type → Type} [Monad m] [Monad n] (correspondence : Correspondence m n)

theorem findSomeM? {α β : Type} {lookup : α → m (Option β)} {other : α → n (Option β)}
    (each : ∀ key, correspondence.Holds (lookup key) (other key)) (keys : List α) :
    correspondence.Holds (keys.findSomeM? lookup) (keys.findSomeM? other) := by
  induction keys with
  | nil => exact correspondence.pure none
  | cons key rest ih =>
    apply correspondence.bind (each key)
    intro found
    cases found with
    | none => exact ih
    | some _ => exact correspondence.pure _

variable {lookups : Lookups m} {way : m (Option Container) → n (Option Container)}
  (answers : ∀ answer, correspondence.Holds answer (way answer))

include answers

theorem controller? (controller : Text) :
    correspondence.Holds (lookups.controller? controller)
      ((lookups.answering way).controller? controller) := by
  unfold Lookups.controller?
  split
  · exact correspondence.pure none
  · apply correspondence.bind (answers _)
    intro found
    cases found with
    | none => exact answers _
    | some _ => exact correspondence.pure _

theorem parent? (container : Container) :
    correspondence.Holds (lookups.parent? container)
      ((lookups.answering way).parent? container) := by
  unfold Lookups.parent?
  split
  · exact correspondence.pure none
  · split
    · exact correspondence.pure none
    · apply correspondence.findSomeM?
      intro candidate
      split
      · exact correspondence.controller? answers _
      · exact correspondence.pure none

theorem mixedIn? (container : Container) (name : Text) :
    correspondence.Holds (lookups.mixedIn? container name)
      ((lookups.answering way).mixedIn? container name) := by
  apply correspondence.findSomeM?
  intro included
  apply correspondence.bind
  · exact correspondence.findSomeM? (fun _ => answers _) _
  · intro found
    cases found <;> exact correspondence.pure _

theorem round (name : Text) (container : Container) :
    correspondence.Holds (Search.round lookups name container)
      (Search.round (lookups.answering way) name container) := by
  unfold Search.round
  cases container.method? name with
  | some _ => exact correspondence.pure _
  | none =>
    apply correspondence.bind (correspondence.mixedIn? answers container name)
    intro mixedIn
    cases mixedIn with
    | some _ => exact correspondence.pure _
    | none =>
      apply correspondence.bind (correspondence.parent? answers container)
      intro parent
      cases parent <;> exact correspondence.pure _

end Correspondence

end RouteReport
