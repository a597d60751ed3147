import RouteReport.Proofs.Resolution.Nearest
import RouteReport.Proofs.Resolution.Updates

/-! Lookups that answer the same whenever they are asked. If they know all the classes that they answer
by name, a search over the names not yet visited is the search that remembers those visited, and a
resolution from nothing is what an update of any record comes to. -/

namespace RouteReport

variable {ε σ : Type}

def Asking.steady (answer : Except ε α) : Asking ε σ α := ExceptT.mk fun world => (answer, world)

def Lookups.steady (lookups : Lookups (Except ε)) : Lookups (Asking ε σ) :=
  lookups.answering Asking.steady

def steadying : Correspondence (Except ε) (Asking ε σ) where
  Holds answer lookup := ∀ world, lookup.ask world = (answer, world)
  pure _ _ := rfl
  bind {_ _ first _ _ _} same later world := by
    rw [Asking.ask_bind, same]
    cases first with
    | error _ => rfl
    | ok a => exact later a world

theorem Asking.ensures_steady {answer : Except ε α} {holds : α → Prop}
    (answered : ∀ a, answer = .ok a → holds a) :
    (Asking.steady answer : Asking ε σ α).Ensures holds := by
  intro world a after asked
  exact answered a (congrArg Prod.fst asked)

variable (lookups : Lookups (Except ε))

theorem Search.ask_round_steady (name : Text) (container : Container) (world : σ) :
    (round lookups.steady name container).ask world = (round lookups name container, world) :=
  steadying.round (fun _ _ => rfl) name container world

theorem Lookups.ask_controller?_steady (controller : Text) (world : σ) :
    (lookups.steady.controller? controller).ask world = (lookups.controller? controller, world) :=
  steadying.controller? (fun _ _ => rfl) controller world

structure Lookups.Confined (lookups : Lookups (Except ε)) : Prop where
  distinct : lookups.classNames.Nodup
  own : ∀ controller found, lookups.ownController controller = .ok (some found) →
    found.qualifiedName ∈ lookups.classNames
  any : ∀ className found, lookups.anyController className = .ok (some found) →
    found.qualifiedName ∈ lookups.classNames

namespace Search

variable {m : Type → Type} [Monad m] [LawfulMonad m] {lookups : Lookups m} {name : Text}
  {unvisited : List Text} {container : Container}

theorem along_eq_round (fresh : container.qualifiedName ∈ unvisited) :
    along lookups name unvisited container = round lookups name container >>= fun
      | .ended search => pure search
      | .inherits parent => along lookups name (unvisited.erase container.qualifiedName) parent := by
  rw [along, dif_pos fresh, round]
  cases container.method? name with
  | some method => simp
  | none =>
    simp only [bind_assoc]
    congr 1
    funext mixedIn
    cases mixedIn with
    | some method => simp
    | none =>
      simp only [bind_assoc]
      congr 1
      funext parent
      cases parent <;> simp

end Search

namespace Lookups.Confined

variable {lookups : Lookups (Except ε)} (confined : lookups.Confined)

include confined

theorem classes : (lookups.steady : Lookups (Asking ε σ)).Classes
    fun entry => entry.qualifiedName ∈ lookups.classNames where
  own controller := Asking.ensures_steady fun _ answered entry found =>
    confined.own controller entry (found ▸ answered)
  any className := Asking.ensures_steady fun _ answered entry found =>
    confined.any className entry (found ▸ answered)

variable {name : Text}

theorem loop_eq_along {visited unvisited : List Text} (distinct : unvisited.Nodup)
    (left : ∀ name ∈ lookups.classNames, name ∈ unvisited ↔ name ∉ visited) {container : Container}
    (known : container.qualifiedName ∈ lookups.classNames) (world : σ) :
    Search.loop lookups.steady name ⟨visited, container, world⟩ =
      Part.some (Search.along lookups name unvisited container, world) := by
  -- Each class looked at goes from the names left to those visited, which share out all the names.
  induction size : unvisited.length using Nat.strongRecOn
    generalizing visited unvisited container with
  | ind size ih =>
    by_cases fresh : container.qualifiedName ∈ unvisited
    · have unmet := (left _ known).mp fresh
      have answered := Search.ask_round_steady lookups name container world
      rw [Search.along_eq_round fresh]
      cases asked : Search.round lookups name container with
      | error _ =>
        rw [asked] at answered
        exact Search.loop_of_inl (Search.advance_of_failed unmet answered)
      | ok round =>
        rw [asked] at answered
        cases round with
        | ended _ => exact Search.loop_of_inl (Search.advance_of_ended unmet answered)
        | inherits parent =>
          have inherited :=
            Search.ensures_round lookups.steady name confined.classes container _ _ _ answered
          refine (Search.loop_of_inr (Search.advance_of_inherits unmet answered)).trans
            (ih _ (size ▸ length_erase_lt fresh) (distinct.erase _) ?_ inherited rfl)
          intro other listed
          rw [distinct.mem_erase_iff, left other listed, List.mem_cons, not_or]
    · have met : container.qualifiedName ∈ visited := by
        by_contra unmet
        exact fresh ((left _ known).mpr unmet)
      rw [Search.loop_of_inl (Search.advance_of_visited met), Search.along, dif_neg fresh]
      rfl

end Lookups.Confined

theorem App.confined {app : App} {sources : List ParsedSource}
    (built : Index.Built sources app.index) (base : Text) :
    (app.lookups base : Lookups (Except ε)).Confined where
  distinct := built.distinct .classKind
  own controller found answered := by
    have hit : app.controller? controller base = some found := Except.ok.inj answered
    exact List.mem_map_of_mem (ContainerTable.lookup?_mem (App.class?_of_controller? hit))
  any className found answered :=
    List.mem_map_of_mem (ContainerTable.lookup?_mem (Except.ok.inj answered))

theorem updated_eq_resolve {context : Option (Lookups (Except ε))}
    (confined : ∀ lookups, context = some lookups → lookups.Confined) (controller action : Text)
    (earlier : Action) (world : σ) :
    Action.updated (context.map Lookups.steady) controller action earlier world =
      let outcome := Action.resolve context controller action
      Part.some (outcome.failure.elim (.ok outcome.log) .error, outcome.action, world) := by
  cases context with
  | none => exact Action.updated_of_nowhere _ (.inl rfl) _ _
  | some lookups =>
    have confined := confined lookups rfl
    by_cases empty : controller.isEmpty = true
    · rw [Action.updated_of_nowhere _ (.inr empty), Action.resolve, if_pos empty]
      rfl
    · rw [Option.map_some, Action.updated_eq (Bool.eq_false_iff.mpr empty),
        Lookups.ask_controller?_steady, Action.resolve, if_neg empty, Action.find]
      cases asked : lookups.controller? controller with
      | error _ => rfl
      | ok controllerClass =>
        cases controllerClass with
        | none => rfl
        | some container =>
          have answered := Lookups.ask_controller?_steady lookups controller world
          rw [asked] at answered
          have known := confined.classes.controller? controller _ _ _ answered container rfl
          have run : Search.loop lookups.steady action ⟨[], container, world⟩ =
              Part.some (lookups.method? container action, world) :=
            confined.loop_eq_along confined.distinct
              (fun _ listed => iff_of_true listed List.not_mem_nil) known world
          by_cases noAction : action.isEmpty = true
          · simp only [Action.search, if_pos noAction]
            rfl
          · simp only [Action.search, if_neg noAction, run, bind, Except.bind]
            cases lookups.method? container action <;> rfl

theorem App.updated_eq_resolve {app : App} {sources : List ParsedSource}
    (built : Index.Built sources app.index) (base controller action : Text) (earlier : Action)
    (world : σ) :
    Action.updated (some (app.lookups base : Lookups (Except ε)).steady) controller action earlier world =
      let outcome := Action.resolve (some (app.lookups base : Lookups (Except ε))) controller action
      Part.some (outcome.failure.elim (.ok outcome.log) .error, outcome.action, world) := by
  refine @RouteReport.updated_eq_resolve ε σ (some (app.lookups base)) ?_ controller action earlier world
  rintro _ ⟨⟩
  exact App.confined built base

end RouteReport
