import Mathlib.Data.List.Infix
import RouteReport.Naming.Scope
import RouteReport.Proofs.TextSearch

/-! The candidates of a name follow the nesting of scopes. The search for them goes outwards from any
text as its scope and ends, since every round leaves less of it; a scope that is made of segments loses
its last one each time. -/

namespace RouteReport

/-- Where the search for candidates stands: the scope to look at, and the candidates so far. -/
structure ScopeWalk where
  scope : Text
  candidates : List Text

namespace ScopeWalk

/-- A round notes the name in the scope and goes on to the scope around it. -/
def round (name : Text) (walk : ScopeWalk) : ScopeWalk :=
  ⟨namespaceOf walk.scope, walk.candidates ++ [walk.scope ++ scopeMark ++ name]⟩

/-- There are rounds as long as there is a scope, and after this many there is none. -/
inductive Ends (name : Text) : ScopeWalk → Nat → ScopeWalk → Prop where
  | here {walk : ScopeWalk} (outside : walk.scope = []) : Ends name walk 0 walk
  | later {walk final : ScopeWalk} {rounds : Nat} (inside : walk.scope ≠ [])
      (rest : Ends name (walk.round name) rounds final) : Ends name walk (rounds + 1) final

end ScopeWalk

section Search

@[simp] theorem enclosingScopes_nil : enclosingScopes [] = [] := by
  rw [enclosingScopes, dif_pos rfl]

theorem enclosingScopes_of_ne_nil {scope : Text} (inside : scope ≠ []) :
    enclosingScopes scope = scope :: enclosingScopes (namespaceOf scope) := by
  rw [enclosingScopes, dif_neg inside]

theorem length_enclosingScopes_le (scope : Text) :
    2 * (enclosingScopes scope).length ≤ scope.length + 1 := by
  fun_induction enclosingScopes scope with
  | case1 => simp
  | case2 scope inside ih =>
    have some_character := List.length_pos_iff.mpr inside
    rw [List.length_cons]
    cases found : scope.cutLast? scopeMark with
    | none =>
      have outermost : namespaceOf scope = [] := by rw [namespaceOf, found]
      rw [outermost, enclosingScopes_nil, List.length_nil]
      omega
    | some parts =>
      have outer : namespaceOf scope = parts.1 := by rw [namespaceOf, found]
      have whole := congrArg List.length (Text.append_of_cutLast? found)
      simp only [List.length_append, scopeMark, List.length_cons, List.length_nil] at whole
      rw [outer] at ih ⊢
      omega

theorem ends_enclosingScopes (name scope : Text) (found : List Text) :
    ScopeWalk.Ends name ⟨scope, found⟩ (enclosingScopes scope).length
      ⟨[], found ++ (enclosingScopes scope).map (· ++ scopeMark ++ name)⟩ := by
  fun_induction enclosingScopes scope generalizing found with
  | case1 => simpa using ScopeWalk.Ends.here rfl
  | case2 scope inside ih =>
    have rest := ih (found ++ [scope ++ scopeMark ++ name])
    rw [List.append_assoc found, List.singleton_append] at rest
    exact .later inside rest

theorem lexicalCandidates_of_relative {name : Text} (relative : ¬ scopeMark <+: name.trim)
    (scope : Text) : lexicalCandidates name scope =
      (enclosingScopes scope).map (· ++ scopeMark ++ name.trim) ++ [name.trim] := by
  rw [lexicalCandidates, Text.afterPrefix?_eq_none relative]

theorem lexicalCandidates_of_absolute {name rest : Text} (absolute : name.trim = scopeMark ++ rest)
    (scope : Text) : lexicalCandidates name scope = [rest] := by
  rw [lexicalCandidates, absolute, Text.afterPrefix?_append]

end Search

section Segments

theorem namespaceOf_of_clean {base : Text} (clean : ':' ∉ base) : namespaceOf base = [] := by
  cases found : base.cutLast? scopeMark with
  | none => rw [namespaceOf, found]
  | some parts =>
    refine absurd ?_ clean
    rw [Text.append_of_cutLast? found]
    simp [scopeMark]

theorem namespaceOf_append {base : Text} (clean : ':' ∉ base) (outer : Text) :
    namespaceOf (outer ++ scopeMark ++ base) = outer := by
  have mark : scopeMark = [':'] ++ [':'] := rfl
  rw [namespaceOf, mark, Text.cutLast?_of_last_not_mem clean]

theorem namespaceOf_join (segments : List Text) {last : Text} (clean : ':' ∉ last) :
    namespaceOf (Text.join scopeMark (segments ++ [last])) = Text.join scopeMark segments := by
  by_cases alone : segments = []
  · rw [alone]
    exact namespaceOf_of_clean clean
  · rw [Text.join_concat alone, namespaceOf_append clean]

theorem join_concat_ne_nil (segments : List Text) {last : Text} (filled : last ≠ []) :
    Text.join scopeMark (segments ++ [last]) ≠ [] := by
  by_cases alone : segments = []
  · rw [alone]
    exact filled
  · rw [Text.join_concat alone]
    exact List.append_ne_nil_of_right_ne_nil _ filled

theorem candidates_of_segments {segments : List Text}
    (proper : ∀ segment ∈ segments, segment ≠ [] ∧ ':' ∉ segment) (name : Text) :
    (enclosingScopes (Text.join scopeMark segments)).map (· ++ scopeMark ++ name) ++ [name] =
      segments.inits.reverse.map fun outer => Text.join scopeMark (outer ++ [name]) := by
  induction segments using List.reverseRecOn with
  | nil => simp [Text.join]
  | append_singleton segments last ih =>
    obtain ⟨filled, clean⟩ := proper last List.mem_concat_self
    have others := ih fun segment member => proper segment (List.mem_append_left _ member)
    have inits : (segments ++ [last]).inits.reverse = (segments ++ [last]) :: segments.inits.reverse := by
      simp
    rw [enclosingScopes_of_ne_nil (join_concat_ne_nil segments filled), namespaceOf_join segments clean,
      inits, List.map_cons, List.map_cons, List.cons_append, others,
      Text.join_concat (List.concat_ne_nil last segments)]

end Segments

/-- The search for candidates ends from any scope, within half as many rounds as that has characters,
rounded up, and the candidates are what it found and then the name itself. In a scope of proper segments
they are the name behind all segments, behind all but the last, and so on up to the name alone; a name
from the top level is its only candidate. -/
theorem lexicalCandidates_nested (name scope : Text) :
    (∃ rounds found, 2 * rounds ≤ scope.length + 1 ∧
        ScopeWalk.Ends name.trim ⟨scope, []⟩ rounds ⟨[], found⟩ ∧
        (¬ scopeMark <+: name.trim → lexicalCandidates name scope = found ++ [name.trim])) ∧
      (∀ rest, name.trim = scopeMark ++ rest → lexicalCandidates name scope = [rest]) ∧
      ∀ segments : List Text, (∀ segment ∈ segments, segment ≠ [] ∧ ':' ∉ segment) →
        scope = Text.join scopeMark segments → ¬ scopeMark <+: name.trim →
          lexicalCandidates name scope =
              segments.inits.reverse.map (fun outer => Text.join scopeMark (outer ++ [name.trim])) ∧
            (lexicalCandidates name scope).length = segments.length + 1 := by
  refine ⟨⟨_, _, length_enclosingScopes_le scope, ends_enclosingScopes name.trim scope [],
    fun relative => lexicalCandidates_of_relative relative scope⟩,
    fun rest absolute => lexicalCandidates_of_absolute absolute scope, ?_⟩
  rintro segments proper rfl relative
  have listed := (lexicalCandidates_of_relative relative _).trans (candidates_of_segments proper name.trim)
  refine ⟨listed, ?_⟩
  rw [listed, List.length_map, List.length_reverse, List.length_inits]

theorem lexicalCandidates_of_helpers :
    (∀ segment ∈ ["Admin".toList, "Api".toList], segment ≠ [] ∧ ':' ∉ segment) ∧
      "Admin::Api".toList = Text.join scopeMark ["Admin".toList, "Api".toList] ∧
      ¬ scopeMark <+: Text.trim " Helpers\n".toList ∧
      lexicalCandidates " Helpers\n".toList "Admin::Api".toList =
        ["Admin::Api::Helpers".toList, "Admin::Helpers".toList, "Helpers".toList] := by
  have proper : ∀ segment ∈ ["Admin".toList, "Api".toList], segment ≠ [] ∧ ':' ∉ segment := by decide
  have written : "Admin::Api".toList = Text.join scopeMark ["Admin".toList, "Api".toList] := by decide
  have relative : ¬ scopeMark <+: Text.trim " Helpers\n".toList := by decide
  obtain ⟨-, -, nested⟩ := lexicalCandidates_nested " Helpers\n".toList "Admin::Api".toList
  exact ⟨proper, written, relative, (nested _ proper written relative).1⟩

end RouteReport
