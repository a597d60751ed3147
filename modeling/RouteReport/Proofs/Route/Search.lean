import RouteReport.Proofs.LowerCase
import RouteReport.Route.List

/-! The search for routes by a text. Routes that show the text as it is written are found for every text
but those with a sigma at an end, which is lowered in one way alone and in another within a word. -/

namespace RouteReport

namespace Route

def fields (route : Route) : List Text := [route.path, route.controller, route.action, route.name]

/-- The query stands in one of the fields as it is written. -/
def Shows (route : Route) (query : Text) : Prop := ∃ field ∈ route.fields, query <:+: field

instance (route : Route) (query : Text) : Decidable (route.Shows query) :=
  inferInstanceAs (Decidable (∃ field ∈ route.fields, query <:+: field))

theorem answers_iff {route : Route} {query : Text} :
    route.answers query = true ↔ ∃ field ∈ route.fields, query.lower <:+: field.lower := by
  simp only [answers, fields, List.any_eq_true, Text.holds_iff]

def filledWith (text : Text) : Route := ⟨none, .any, text, text, text, text, .normal⟩

theorem mem_fields_filledWith {text field : Text} : field ∈ (filledWith text).fields ↔ field = text := by
  simp [fields, filledWith]

theorem answers_filledWith_iff {text query : Text} :
    (filledWith text).answers query = true ↔ query.lower <:+: text.lower := by
  simp only [answers_iff, mem_fields_filledWith, exists_eq_left]

end Route

namespace Routes

theorem matching_eq_filter (routes : Routes) (query : Text) :
    routes.matching query = routes.filter (·.answers query) := by
  unfold matching
  split
  · rename_i empty
    rw [List.isEmpty_iff.mp empty]
    refine (List.filter_eq_self.mpr ?_).symm
    intro route _
    exact Route.answers_iff.mpr ⟨route.path, List.mem_cons_self, List.nil_infix⟩
  · rfl

theorem mem_matching_iff {routes : Routes} {query : Text} {route : Route} :
    route ∈ routes.matching query ↔ route ∈ routes ∧ route.answers query = true := by
  rw [matching_eq_filter, List.mem_filter]

theorem mem_matching_filledWith_iff {text query : Text} :
    Route.filledWith text ∈ matching [Route.filledWith text] query ↔ query.lower <:+: text.lower := by
  rw [mem_matching_iff, Route.answers_filledWith_iff]
  simp

theorem found_of_shown_iff {query : Text} :
    (∀ (routes : Routes), ∀ route ∈ routes, route.Shows query → route ∈ routes.matching query) ↔
      query.SettledCase := by
  rw [← Text.lower_infix_iff]
  constructor
  · intro found wider inside
    apply mem_matching_filledWith_iff.mp
    exact found _ _ (List.mem_singleton_self _) ⟨wider, Route.mem_fields_filledWith.mpr rfl, inside⟩
  · rintro kept routes route member ⟨field, among, inside⟩
    exact mem_matching_iff.mpr ⟨member, Route.answers_iff.mpr ⟨field, among, kept field inside⟩⟩

theorem found_by_part_iff {query : Text} :
    (∀ wider, query <:+: wider → ∀ routes : Routes, routes.matching wider ⊆ routes.matching query) ↔
      query.SettledCase := by
  rw [← Text.lower_infix_iff]
  constructor
  · intro found wider inside
    apply mem_matching_filledWith_iff.mp
    exact found wider inside _ (mem_matching_filledWith_iff.mpr List.infix_rfl)
  · intro kept wider inside routes route member
    rcases mem_matching_iff.mp member with ⟨present, answers⟩
    rcases Route.answers_iff.mp answers with ⟨field, among, holds⟩
    exact mem_matching_iff.mpr ⟨present, Route.answers_iff.mpr
      ⟨field, among, (kept wider inside).trans holds⟩⟩

/-- Routes that show a query are found, and what a longer query finds is found by its parts, just when no
sigma of the query takes its form from what stands around it. What is found keeps its order and
number. -/
theorem search_faithful_iff (query : Text) :
    ((∀ (routes : Routes), ∀ route ∈ routes, route.Shows query → route ∈ routes.matching query) ↔
        query.SettledCase) ∧
      ((∀ wider, query <:+: wider → ∀ routes : Routes, routes.matching wider ⊆ routes.matching query) ↔
        query.SettledCase) ∧
      ('Σ' ∉ query → query.SettledCase) ∧
      ∀ routes : Routes, List.Sublist (routes.matching query) routes ∧
        ∀ route ∈ routes.matching query, (routes.matching query).count route = routes.count route := by
  refine ⟨found_of_shown_iff, found_by_part_iff, Text.settledCase_of_not_mem, ?_⟩
  intro routes
  rw [matching_eq_filter]
  refine ⟨List.filter_sublist, ?_⟩
  intro route member
  exact List.count_filter (List.mem_filter.mp member).2

def sigmaRoute : Route := { Route.filledWith [] with path := "/ΑΣ".toList }

theorem shown_route_missed :
    ¬ ∀ (query : Text) (routes : Routes), ∀ route ∈ routes, route.Shows query →
      route ∈ routes.matching query := by
  intro always
  have found := always "Σ".toList [sigmaRoute] sigmaRoute (List.mem_singleton_self _) (by decide)
  exact absurd found (by decide +kernel)

end Routes

end RouteReport
