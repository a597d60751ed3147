import RouteReport.Export
import RouteReport.Proofs.TextLaws

namespace RouteReport.Route

def isSigil (c : Char) : Bool := c == ':' || c == '*'

/-- A placeholder, and the literal up to the next one. -/
structure Block where
  glob : Bool
  first : Char
  others : Text
  literal : Text
  first_starts : startsParam first = true
  others_word : ∀ c ∈ others, Text.isWord c = true
  literal_plain : ∀ c ∈ literal, isSigil c = false
  literal_apart : ∀ c, literal.head? = some c → Text.isWord c = false

namespace Block

def sigil (block : Block) : Char := if block.glob then '*' else ':'

def name (block : Block) : Text := block.first :: block.others

def text (block : Block) : Text := block.sigil :: (block.name ++ block.literal)

end Block

structure PathPattern where
  lead : Text
  blocks : List Block
  lead_plain : ∀ c ∈ lead, isSigil c = false

namespace PathPattern

def text (pattern : PathPattern) : Text := pattern.lead ++ pattern.blocks.flatMap Block.text

/-- The names of the placeholders from left to right, as often as they occur. -/
def names (pattern : PathPattern) : List Text := pattern.blocks.map Block.name

end PathPattern

theorem isWord_of_startsParam {c : Char} (starts : startsParam c = true) : Text.isWord c = true := by
  simp only [startsParam, Text.isAsciiLetter, Bool.or_eq_true, beq_iff_eq] at starts
  have ascii : c.toNat < 128 := by
    rcases starts with (lower | upper) | rfl
    · have bounds := Text.toNat_of_isAsciiLower lower
      omega
    · have bounds := Text.toNat_of_isAsciiUpper upper
      omega
    · decide
  simp only [Text.isWord, ascii, ↓reduceIte, Text.isAsciiLetter, Bool.or_eq_true, beq_iff_eq]
  tauto

theorem isSigil_of_isWord {c : Char} (word : Text.isWord c = true) : isSigil c = false := by
  rw [Bool.eq_false_iff]
  intro sigil
  simp only [isSigil, Bool.or_eq_true, beq_iff_eq] at sigil
  rcases sigil with rfl | rfl <;> cases word

namespace Block

theorem isSigil_sigil (block : Block) : isSigil block.sigil = true := by
  unfold sigil
  split <;> rfl

theorem name_word (block : Block) : ∀ c ∈ block.name, Text.isWord c = true :=
  List.forall_mem_cons.mpr ⟨isWord_of_startsParam block.first_starts, block.others_word⟩

end Block

theorem paramsIn_append {front : Text} (plain : ∀ c ∈ front, isSigil c = false) (rest : Text) :
    paramsIn (front ++ rest) = paramsIn rest := by
  induction front with
  | nil => rfl
  | cons c others ih =>
    rcases List.forall_mem_cons.mp plain with ⟨noSigil, later⟩
    simp only [isSigil] at noSigil
    rw [List.cons_append, paramsIn, noSigil, Bool.false_and, if_neg Bool.false_ne_true, ih later]

theorem paramsIn_block (block : Block) {rest : Text}
    (apart : ∀ c, rest.head? = some c → Text.isWord c = false) :
    paramsIn (block.text ++ rest) = block.name :: paramsIn rest := by
  have boundary : ∀ c, (block.literal ++ rest).head? = some c → Text.isWord c = false := by
    intro c first
    cases shape : block.literal with
    | nil => exact apart c (by rwa [shape] at first)
    | cons d others =>
      apply block.literal_apart
      rw [shape] at first ⊢
      exact first
  have whole : (block.name ++ (block.literal ++ rest)).takeWhile Text.isWord = block.name :=
    congrArg Prod.fst (Text.run_append Text.isWord block.name _ block.name_word boundary)
  have begun : (block.name ++ (block.literal ++ rest)).head?.any startsParam = true :=
    block.first_starts
  have sigil := block.isSigil_sigil
  rw [isSigil] at sigil
  calc
    paramsIn (block.text ++ rest)
        = paramsIn (block.sigil :: (block.name ++ (block.literal ++ rest))) := by
          rw [Block.text, List.cons_append, List.append_assoc]
    _ = block.name :: paramsIn (block.name ++ (block.literal ++ rest)) := by
          rw [paramsIn, sigil, begun, Bool.and_self, if_pos rfl, whole]
    _ = block.name :: paramsIn rest := by
          rw [paramsIn_append fun c present => isSigil_of_isWord (block.name_word c present),
            paramsIn_append block.literal_plain]

theorem head_blocks {blocks : List Block} {c : Char}
    (first : (blocks.flatMap Block.text).head? = some c) : Text.isWord c = false := by
  cases blocks with
  | nil => cases first
  | cons block rest =>
    have sigil : block.sigil = c := Option.some.inj first
    rw [Bool.eq_false_iff]
    intro word
    have clash := isSigil_of_isWord word
    rw [← sigil, block.isSigil_sigil] at clash
    cases clash

theorem paramsIn_blocks (blocks : List Block) :
    paramsIn (blocks.flatMap Block.text) = blocks.map Block.name := by
  induction blocks with
  | nil => rfl
  | cons block rest ih =>
    rw [List.flatMap_cons, paramsIn_block block fun _ first => head_blocks first, ih, List.map_cons]

theorem paramsIn_pattern (pattern : PathPattern) : paramsIn pattern.text = pattern.names := by
  rw [PathPattern.text, paramsIn_append pattern.lead_plain, paramsIn_blocks, PathPattern.names]

theorem params_field (route : Route) (action : Option Action) :
    ∃ fields, Export.routeDocument route action = .record fields ∧
      ∀ value, ("params".toList, value) ∈ fields ↔
        route.params ≠ [] ∧ value = .list (route.params.map .text) := by
  refine ⟨_, rfl, ?_⟩
  intro value
  cases route.params <;> cases action <;> simp [Export.field]

/-- A route whose path follows a pattern has the names of the pattern as its parameters, in order and
with repetitions, and its document has that list under one key exactly when it is not empty. -/
theorem placeholders_decoded {route : Route} {pattern : PathPattern} (written : route.path = pattern.text)
    (action : Option Action) :
    route.params = pattern.names ∧
      ∃ fields, Export.routeDocument route action = .record fields ∧
        ∀ value, ("params".toList, value) ∈ fields ↔
          pattern.names ≠ [] ∧ value = .list (pattern.names.map .text) := by
  have decoded : route.params = pattern.names := by
    rw [params, written, paramsIn_pattern]
  refine ⟨decoded, ?_⟩
  have field := params_field route action
  rwa [decoded] at field

def crowdedPattern : PathPattern where
  lead := "/".toList
  blocks := [
    ⟨false, 'a', [], [], by decide, by decide, by decide, by simp⟩,
    ⟨true, '_', "é1".toList, "-".toList, by decide, by decide, by decide, by simp; decide⟩,
    ⟨false, 'a', [], "(.".toList, by decide, by decide, by decide, by simp; decide⟩,
    ⟨false, 'f', "ormat".toList, ")".toList, by decide, by decide, by decide, by simp; decide⟩]
  lead_plain := by decide

def crowdedRoute : Route :=
  ⟨none, .get, "/:a*_é1-:a(.:format)".toList, "users".toList, "show".toList, [], .normal⟩

theorem placeholders_of_crowdedRoute :
    crowdedRoute.path = crowdedPattern.text ∧
      crowdedRoute.params = ["a".toList, "_é1".toList, "a".toList, "format".toList] ∧
      ∃ fields, Export.routeDocument crowdedRoute none = .record fields ∧
        ("params".toList, .list (["a", "_é1", "a", "format"].map (.text ·.toList))) ∈ fields := by
  have written : crowdedRoute.path = crowdedPattern.text := by decide
  rcases placeholders_decoded written none with ⟨decoded, fields, shape, field⟩
  exact ⟨written, decoded, fields, shape, (field _).mpr ⟨by decide, rfl⟩⟩

end RouteReport.Route
