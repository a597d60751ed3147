import Mathlib.Algebra.BigOperators.Group.List.Lemmas
import Mathlib.Algebra.GroupWithZero.Nat
import Mathlib.Data.List.Dedup
import RouteReport.Proofs.Route.Search

/-! Lists of routes, and what is counted and collected of them. However a list came about, its counts, types
and controllers agree with the routes in it, and those of a list that was extended are found from its two
parts. -/

namespace RouteReport

section EraseDups

variable {α : Type} [BEq α] [LawfulBEq α] {values : List α} {value : α}

theorem eraseDups_concat_of_mem (present : value ∈ values) :
    (values ++ [value]).eraseDups = values.eraseDups := by
  simp [List.eraseDups_append, List.removeAll, present]

theorem eraseDups_concat_of_not_mem (new : value ∉ values) :
    (values ++ [value]).eraseDups = values.eraseDups ++ [value] := by
  simp [List.eraseDups_append, List.removeAll, new, List.eraseDups_cons]

theorem eraseDups_append_eq [DecidableEq α] (front back : List α) :
    (front ++ back).eraseDups =
      front.eraseDups ++ back.eraseDups.filter (fun value => value ∉ front.eraseDups) := by
  simp only [List.mem_eraseDups]
  induction back using List.reverseRecOn with
  | nil => simp
  | append_singleton back last ih =>
    rw [← List.append_assoc]
    by_cases known : last ∈ back
    · rw [eraseDups_concat_of_mem (List.mem_append_right front known), eraseDups_concat_of_mem known, ih]
    · rw [eraseDups_concat_of_not_mem known, List.filter_append, ← List.append_assoc, ← ih]
      by_cases before : last ∈ front
      · rw [eraseDups_concat_of_mem (List.mem_append_left back before)]
        simp [before]
      · rw [eraseDups_concat_of_not_mem (by simp [before, known])]
        simp [before]

end EraseDups

namespace Routes

/-- The values of a key over the routes, each where it occurs first. -/
def distinct {α : Type} [BEq α] (key : Route → Option α) (routes : Routes) : List α :=
  (routes.filterMap key).eraseDups

/-- The list holds every value that a route shows, once, and in the order of the routes that are the first
to show them. -/
structure ListsByAppearance {α : Type} (routes : Routes) (shows : Route → α → Prop) [DecidableRel shows]
    (listed : List α) : Prop where
  complete : ∀ value, value ∈ listed ↔ ∃ route ∈ routes, shows route value
  once : listed.Nodup
  ordered : listed.Pairwise fun early late =>
    routes.findIdx (shows · early) < routes.findIdx (shows · late)

section Appearance

variable {routes : Routes} {holds : Route → Bool}

theorem findIdx_concat (route : Route) (shown : ∃ earlier ∈ routes, holds earlier = true) :
    (routes ++ [route]).findIdx holds = routes.findIdx holds := by
  rw [List.findIdx_append, if_pos (List.findIdx_lt_length.mpr shown)]

theorem length_le_findIdx_append (rest : Routes) (unshown : ¬ ∃ earlier ∈ routes, holds earlier = true) :
    routes.length ≤ (routes ++ rest).findIdx holds := by
  rw [List.findIdx_append, if_neg (mt List.findIdx_lt_length.mp unshown)]
  exact Nat.le_add_left _ _

variable {α : Type} [BEq α] [LawfulBEq α] {key : Route → Option α}

theorem distinct_append [DecidableEq α] (first second : Routes) :
    distinct key (first ++ second) =
      distinct key first ++ (distinct key second).filter (fun value => value ∉ distinct key first) := by
  rw [distinct, List.filterMap_append, eraseDups_append_eq]
  rfl

variable {shows : Route → α → Prop} (keyed : ∀ route value, shows route value ↔ key route = some value)

include keyed

theorem mem_distinct_iff {value : α} : value ∈ distinct key routes ↔ ∃ route ∈ routes, shows route value := by
  simp only [distinct, List.mem_eraseDups, List.mem_filterMap, keyed]

variable [DecidableRel shows]

theorem ordered_distinct (routes : Routes) :
    (distinct key routes).Pairwise fun early late =>
      routes.findIdx (shows · early) < routes.findIdx (shows · late) := by
  induction routes using List.reverseRecOn with
  | nil => exact List.Pairwise.nil
  | append_singleton routes route ih =>
    have shown : ∀ {value}, value ∈ distinct key routes ↔
        ∃ earlier ∈ routes, decide (shows earlier value) = true := by
      simp [mem_distinct_iff keyed]
    have kept : (distinct key routes).Pairwise fun early late =>
        (routes ++ [route]).findIdx (shows · early) < (routes ++ [route]).findIdx (shows · late) := by
      refine ih.imp_of_mem fun early late before => ?_
      rwa [findIdx_concat route (shown.mp early), findIdx_concat route (shown.mp late)]
    rw [distinct, List.filterMap_append]
    cases last : key route with
    | none =>
      have nothing : [route].filterMap key = [] := by simp [last]
      rw [nothing, List.append_nil]
      exact kept
    | some value =>
      have single : [route].filterMap key = [value] := by simp [last]
      rw [single]
      by_cases known : value ∈ routes.filterMap key
      · rwa [eraseDups_concat_of_mem known]
      · rw [eraseDups_concat_of_not_mem known]
        refine List.pairwise_append.mpr ⟨kept, List.pairwise_singleton _ _, ?_⟩
        intro early listed late final
        have unshown : ¬ ∃ earlier ∈ routes, decide (shows earlier late) = true := by
          rwa [List.mem_singleton.mp final, ← shown, distinct, List.mem_eraseDups]
        calc
          (routes ++ [route]).findIdx (shows · early)
              = routes.findIdx (shows · early) := findIdx_concat route (shown.mp listed)
          _ < routes.length := List.findIdx_lt_length.mpr (shown.mp listed)
          _ ≤ (routes ++ [route]).findIdx (shows · late) := length_le_findIdx_append [route] unshown

theorem listsByAppearance_distinct (routes : Routes) :
    ListsByAppearance routes shows (distinct key routes) where
  complete _ := mem_distinct_iff keyed
  once := (ordered_distinct keyed routes).imp fun before same => by
    rw [same] at before
    exact lt_irrefl _ before
  ordered := ordered_distinct keyed routes

end Appearance

section Aggregates

/-- The route is normal, and the controller is its own. -/
def NamesController (route : Route) (controller : Text) : Prop :=
  route.type = .normal ∧ controller ≠ [] ∧ route.controller = controller

instance : DecidableRel NamesController := fun _ _ => inferInstanceAs (Decidable (_ ∧ _ ∧ _))

/-- The number that the counts give for a method. -/
def countOf (routes : Routes) (verb : Verb) : Nat := (routes.countByVerb.lookup verb).getD 0

/-- What is counted and collected of a list agrees with its routes. -/
structure Agrees (routes : Routes) : Prop where
  verbs : ListsByAppearance routes (fun route verb => route.verb = verb) (routes.countByVerb.map (·.1))
  counts : ∀ entry ∈ routes.countByVerb, entry.2 = (routes.filter (·.verb = entry.1)).length
  counts_total : (routes.countByVerb.map (·.2)).sum = routes.length
  types : ∀ type, List.Sublist (routes.ofType type) routes ∧
    ∀ route ∈ routes.ofType type, route.type = type
  types_total : (routes.ofType .normal).length + (routes.ofType .mounted).length +
    (routes.ofType .redirect).length = routes.length
  controllers : ListsByAppearance routes NamesController routes.controllers

/-- What is counted and collected of a list that was extended, by its two parts. -/
structure AddsUp (first second : Routes) : Prop where
  types : ∀ type, ofType (first ++ second) type = first.ofType type ++ second.ofType type
  found : ∀ query, matching (first ++ second) query = first.matching query ++ second.matching query
  counts : ∀ verb, countOf (first ++ second) verb = first.countOf verb + second.countOf verb
  controllers : controllers (first ++ second) =
    first.controllers ++ second.controllers.filter fun controller => controller ∉ first.controllers

def verbKey (route : Route) : Option Verb := some route.verb

def controllerKey (route : Route) : Option Text :=
  if !route.controller.isEmpty && route.type = .normal then some route.controller else none

theorem verb_iff_verbKey (route : Route) (verb : Verb) : route.verb = verb ↔ verbKey route = some verb :=
  Option.some_inj.symm

theorem namesController_iff (route : Route) (controller : Text) :
    NamesController route controller ↔ controllerKey route = some controller := by
  by_cases counts : (!route.controller.isEmpty && decide (route.type = .normal)) = true
  · rw [controllerKey, if_pos counts, Option.some.injEq]
    simp only [Bool.and_eq_true, Bool.not_eq_true', List.isEmpty_eq_false_iff, decide_eq_true_eq] at counts
    constructor
    · exact fun names => names.2.2
    · rintro rfl
      exact ⟨counts.2, counts.1, rfl⟩
  · rw [controllerKey, if_neg counts]
    simp only [reduceCtorEq, iff_false]
    rintro ⟨normal, filled, rfl⟩
    exact counts (by simp [normal, filled])

variable (routes : Routes)

theorem controllers_eq : routes.controllers = distinct controllerKey routes := by
  rw [controllers, ← List.filterMap_eq_map, List.filterMap_filter]
  rfl

theorem count_verb (verb : Verb) :
    (routes.map (·.verb)).count verb = (routes.filter (·.verb = verb)).length := by
  rw [List.count, List.countP_map, List.countP_eq_length_filter]
  rfl

theorem countByVerb_eq : routes.countByVerb =
    (distinct verbKey routes).map fun verb => (verb, (routes.filter (·.verb = verb)).length) := by
  have verbs : routes.map (·.verb) = routes.filterMap verbKey :=
    (congrFun List.filterMap_eq_map' routes).symm
  simp only [countByVerb, count_verb]
  rw [verbs, distinct]

theorem map_fst_countByVerb : routes.countByVerb.map (·.1) = distinct verbKey routes := by
  rw [countByVerb_eq, List.map_map]
  exact List.map_id _

theorem sum_countByVerb : (routes.countByVerb.map (·.2)).sum = routes.length := by
  have listed := listsByAppearance_distinct verb_iff_verbKey routes
  have reordered : List.Perm (distinct verbKey routes) (routes.map (·.verb)).dedup := by
    refine (List.perm_ext_iff_of_nodup listed.once (List.nodup_dedup _)).mpr fun verb => ?_
    rw [listed.complete, List.mem_dedup, List.mem_map]
  calc
    (routes.countByVerb.map (·.2)).sum
        = ((distinct verbKey routes).map fun verb => (routes.map (·.verb)).count verb).sum := by
          rw [countByVerb_eq, List.map_map]
          simp only [count_verb]
          rfl
    _ = ((routes.map (·.verb)).dedup.map fun verb => (routes.map (·.verb)).count verb).sum :=
          (reordered.map _).sum_eq
    _ = routes.length := by rw [List.sum_map_count_dedup_eq_length, List.length_map]

theorem length_ofType :
    (routes.ofType .normal).length + (routes.ofType .mounted).length +
      (routes.ofType .redirect).length = routes.length := by
  induction routes with
  | nil => rfl
  | cons route rest ih =>
    simp only [ofType] at ih
    cases kind : route.type <;> simp [ofType, kind, ← ih] <;> omega

theorem countOf_eq (verb : Verb) : routes.countOf verb = (routes.filter (·.verb = verb)).length := by
  rw [countOf, countByVerb_eq]
  by_cases listed : verb ∈ distinct verbKey routes
  · rw [List.lookup_graph _ listed, Option.getD_some]
  · have unlisted : ((distinct verbKey routes).map fun verb =>
        (verb, (routes.filter (·.verb = verb)).length)).lookup verb = none := by
      refine List.lookup_eq_none_iff.mpr (List.forall_mem_map.mpr fun other member => ?_)
      exact bne_iff_ne.mpr fun same => listed (same ▸ member)
    have none_left : routes.filter (·.verb = verb) = [] := by
      rw [mem_distinct_iff verb_iff_verbKey] at listed
      refine List.filter_eq_nil_iff.mpr fun route member shows => listed ?_
      exact ⟨route, member, of_decide_eq_true shows⟩
    rw [unlisted, none_left, Option.getD_none, List.length_nil]

theorem agrees : routes.Agrees where
  verbs := by
    rw [map_fst_countByVerb]
    exact listsByAppearance_distinct verb_iff_verbKey routes
  counts := by
    rw [countByVerb_eq]
    exact List.forall_mem_map.mpr fun _ _ => rfl
  counts_total := sum_countByVerb routes
  types _ := ⟨List.filter_sublist, fun _ member => of_decide_eq_true (List.mem_filter.mp member).2⟩
  types_total := length_ofType routes
  controllers := by
    rw [controllers_eq]
    exact listsByAppearance_distinct namesController_iff routes

theorem addsUp (first second : Routes) : AddsUp first second where
  types _ := List.filter_append first second
  found query := by simp only [matching_eq_filter, List.filter_append]
  counts verb := by rw [countOf_eq, countOf_eq, countOf_eq, List.filter_append, List.length_append]
  controllers := by rw [controllers_eq, controllers_eq, controllers_eq, distinct_append]

end Aggregates

section Histories

/-- What can be done to a list of routes. -/
inductive Edit where
  | append (route : Route)
  | extend (more : Routes)
  | keepMatching (query : Text)
  | keepType (type : RouteType)

/-- What an edit leaves of the routes that it finds. -/
def Edit.keep (routes : Routes) : Edit → Routes
  | .append _ => routes
  | .extend _ => routes
  | .keepMatching query => routes.matching query
  | .keepType type => routes.ofType type

def Edit.apply (routes : Routes) : Edit → Routes
  | .append route => routes ++ [route]
  | .extend more => routes ++ more
  | .keepMatching query => routes.matching query
  | .keepType type => routes.ofType type

/-- The list that a history of edits makes of an empty one. -/
def after (history : List Edit) : Routes := history.foldl Edit.apply []

theorem apply_append (first second : Routes) (edit : Edit) :
    Edit.apply (first ++ second) edit = edit.keep first ++ edit.apply second := by
  cases edit with
  | append route => exact List.append_assoc first second [route]
  | extend more => exact List.append_assoc first second more
  | keepMatching query => exact (addsUp first second).found query
  | keepType type => exact (addsUp first second).types type

theorem foldl_apply_append (history : List Edit) (first second : Routes) :
    history.foldl Edit.apply (first ++ second) =
      history.foldl Edit.keep first ++ history.foldl Edit.apply second := by
  induction history generalizing first second with
  | nil => rfl
  | cons edit rest ih => rw [List.foldl_cons, List.foldl_cons, List.foldl_cons, apply_append, ih]

theorem matching_ofType (routes : Routes) (query : Text) (type : RouteType) :
    (routes.ofType type).matching query = (routes.matching query).ofType type := by
  rw [matching_eq_filter, matching_eq_filter, ofType, ofType, List.filter_comm]

theorem matching_matching (routes : Routes) (query : Text) :
    (routes.matching query).matching query = routes.matching query := by
  rw [matching_eq_filter, matching_eq_filter, List.filter_filter]
  simp only [Bool.and_self]

end Histories

end Routes

end RouteReport
