import RouteReport.Proofs.Document.JsonTokens

namespace RouteReport.Document.Json

mutual

/-- The value that a document is. -/
def valueOf : Document → Value
  | .text written => .text written
  | .number value => .number ⟨value, 0⟩
  | .list items => .list (valuesOf items)
  | .record fields => .record (fieldValues fields)

def valuesOf : List Document → List Value
  | [] => []
  | item :: rest => valueOf item :: valuesOf rest

def fieldValues : List (Text × Document) → List (Text × Value)
  | [] => []
  | (name, value) :: rest => (name, valueOf value) :: fieldValues rest

end

theorem valuesOf_eq_map (items : List Document) : valuesOf items = items.map valueOf := by
  induction items with
  | nil => rfl
  | cons item rest ih => rw [valuesOf, ih, List.map_cons]

mutual

theorem valueOf_injective : ∀ {first second : Document}, valueOf first = valueOf second → first = second
  | .text _, second, same => by
    cases second <;> simp only [valueOf, Value.text.injEq, reduceCtorEq] at same
    rw [same]
  | .number _, second, same => by
    cases second <;> simp only [valueOf, Value.number.injEq, Number.mk.injEq, and_true, reduceCtorEq] at same
    rw [same]
  | .list _, second, same => by
    cases second <;> simp only [valueOf, Value.list.injEq, reduceCtorEq] at same
    rw [valuesOf_injective same]
  | .record _, second, same => by
    cases second <;> simp only [valueOf, Value.record.injEq, reduceCtorEq] at same
    rw [fieldValues_injective same]

theorem valuesOf_injective :
    ∀ {first second : List Document}, valuesOf first = valuesOf second → first = second
  | [], second, same => by
    cases second with
    | nil => rfl
    | cons => simp [valuesOf] at same
  | item :: rest, second, same => by
    cases second with
    | nil => simp [valuesOf] at same
    | cons other others =>
      simp only [valuesOf, List.cons.injEq] at same
      rw [valueOf_injective same.1, valuesOf_injective same.2]

theorem fieldValues_injective :
    ∀ {first second : List (Text × Document)}, fieldValues first = fieldValues second → first = second
  | [], second, same => by
    cases second with
    | nil => rfl
    | cons => simp [fieldValues] at same
  | (name, value) :: rest, second, same => by
    cases second with
    | nil => simp [fieldValues] at same
    | cons other others =>
      simp only [fieldValues, List.cons.injEq, Prod.mk.injEq] at same
      obtain ⟨⟨sameName, sameValue⟩, later⟩ := same
      rw [sameName, valueOf_injective sameValue, fieldValues_injective later]

end

/-- No record gives two fields the same name. -/
inductive Distinct : Document → Prop where
  | text (written : Text) : Distinct (.text written)
  | number (value : Int) : Distinct (.number value)
  | list {items : List Document} (all : ∀ item ∈ items, Distinct item) : Distinct (.list items)
  | record {fields : List (Text × Document)} (names : (fields.map Prod.fst).Nodup)
      (all : ∀ field ∈ fields, Distinct field.2) : Distinct (.record fields)

def State.Awaits (state : State) (frames : List Frame) : Prop :=
  ∀ token, token ≠ .closeList → state.step? token = State.begin? frames token

def State.AwaitsName (state : State) (frames : List Frame) (fields : List (Text × Value)) : Prop :=
  ∀ name, state.step? (.value (.text name)) = some ⟨frames, .colon fields name⟩

theorem awaits_value (frames : List Frame) : State.Awaits ⟨frames, .value⟩ frames := fun _ _ => rfl

theorem awaits_item (frames : List Frame) : State.Awaits ⟨frames, .item⟩ (.list [] :: frames) := by
  intro token inside
  cases token with
  | closeList => exact absurd rfl inside
  | _ => rfl

theorem awaitsName_field (frames : List Frame) : State.AwaitsName ⟨frames, .field⟩ frames [] :=
  fun _ => rfl

theorem awaitsName_name (frames : List Frame) (fields : List (Text × Value)) :
    State.AwaitsName ⟨frames, .name fields⟩ frames fields := fun _ => rfl

def ReadBack (document : Document) : Prop :=
  ∀ (depth : Nat) (state : State) (frames : List Frame), state.Awaits frames → ∀ rest, Delimited rest →
    readFrom? state (encodeAt depth document ++ rest) = readFrom? ⟨frames, .done (valueOf document)⟩ rest

theorem readBack_text (written : Text) : ReadBack (.text written) := by
  intro depth state frames awaits rest _
  rw [encodeAt, readFrom?_token (token?_text written rest), awaits _ (by simp)]
  rfl

theorem readBack_number (value : Int) : ReadBack (.number value) := by
  intro depth state frames awaits rest ends
  rw [encodeAt, readFrom?_token (token?_number (number?_ofInt value ends)), awaits _ (by simp)]
  rfl

theorem readFrom?_newline (depth : Nat) (state : State) (rest : Text) :
    readFrom? state (newline depth ++ rest) = readFrom? state rest := by
  have spaces (n : Nat) : readFrom? state (Text.spaces n ++ rest) = readFrom? state rest := by
    induction n with
    | zero => rfl
    | succ n ih =>
      rw [Text.spaces, List.replicate_succ, List.cons_append, readFrom?_space rfl]
      exact ih
  rw [newline, List.cons_append, readFrom?_space rfl, spaces]

theorem delimited_comma (rest : Text) : Delimited (',' :: rest) := by
  intro c first
  cases first
  decide

theorem delimited_newline (depth : Nat) (rest : Text) : Delimited (newline depth ++ rest) := by
  intro c first
  cases first
  decide

section Items

variable {items : List Document}

theorem readFrom?_items (all : ∀ item ∈ items, ReadBack item) (someItem : items ≠ [])
    (depth outer : Nat) {state : State} {before : List Value} {frames : List Frame}
    (awaits : state.Awaits (.list before :: frames)) (rest : Text) :
    readFrom? state (Text.join (',' :: newline depth) (encodeItems depth items) ++
      (newline outer ++ ']' :: rest)) =
        readFrom? ⟨frames, .done (.list (before ++ valuesOf items))⟩ rest := by
  induction items generalizing state before with
  | nil => exact absurd rfl someItem
  | cons item tail ih =>
    have readItem := all item List.mem_cons_self depth state _ awaits
    cases tail with
    | nil =>
      have closes : token? (']' :: rest) = some (.closeList, rest) := rfl
      rw [encodeItems, encodeItems, Text.join, readItem _ (delimited_newline _ _),
        readFrom?_newline, readFrom?_token closes]
      rfl
    | cons next others =>
      have later := ih (fun other member => all other (List.mem_cons_of_mem item member)) (by simp)
        (awaits_value (.list (before ++ [valueOf item]) :: frames))
      have shape : Text.join (',' :: newline depth) (encodeItems depth (item :: next :: others)) ++
          (newline outer ++ ']' :: rest) = encodeAt depth item ++ (',' :: (newline depth ++
            (Text.join (',' :: newline depth) (encodeItems depth (next :: others)) ++
              (newline outer ++ ']' :: rest)))) := by
        simp [encodeItems, Text.join]
      have goesOn (tail : Text) : token? (',' :: tail) = some (.comma, tail) := rfl
      rw [shape, readItem _ (delimited_comma _), readFrom?_token (goesOn _)]
      calc
        _ = readFrom? ⟨.list (before ++ [valueOf item]) :: frames, .value⟩ (newline depth ++
            (Text.join (',' :: newline depth) (encodeItems depth (next :: others)) ++
              (newline outer ++ ']' :: rest))) := rfl
        _ = _ := by
          rw [readFrom?_newline, later]
          simp [valuesOf]

theorem readBack_list (all : ∀ item ∈ items, ReadBack item) : ReadBack (.list items) := by
  intro depth state frames awaits rest _
  have opens (tail : Text) : token? ('[' :: tail) = some (.openList, tail) := rfl
  cases items with
  | nil =>
    have closes : token? (']' :: rest) = some (.closeList, rest) := rfl
    have shape : encodeAt depth (.list []) ++ rest = '[' :: ']' :: rest := rfl
    rw [shape, readFrom?_token (opens _), awaits _ (by simp)]
    exact readFrom?_token closes _
  | cons item others =>
    have shape : encodeAt depth (.list (item :: others)) ++ rest = '[' :: (newline (depth + 1) ++
        (Text.join (',' :: newline (depth + 1)) (encodeItems (depth + 1) (item :: others)) ++
          (newline depth ++ ']' :: rest))) := by
      simp [encodeAt, bracketed, encodeItems]
    rw [shape, readFrom?_token (opens _), awaits _ (by simp)]
    calc
      _ = readFrom? ⟨frames, .item⟩ (newline (depth + 1) ++
          (Text.join (',' :: newline (depth + 1)) (encodeItems (depth + 1) (item :: others)) ++
            (newline depth ++ ']' :: rest))) := rfl
      _ = _ := by
        rw [readFrom?_newline, readFrom?_items all (by simp) _ _ (awaits_item frames)]
        rfl

end Items

theorem assign_new {fields : List (Text × Value)} {name : Text} (fresh : name ∉ fields.map Prod.fst)
    (value : Value) : assign fields name value = fields ++ [(name, value)] := by
  induction fields with
  | nil => rfl
  | cons field rest ih =>
    simp only [List.map_cons, List.mem_cons, not_or] at fresh
    rw [assign, if_neg (Ne.symm fresh.1), ih fresh.2]
    rfl

theorem readFrom?_field {name : Text} {value : Document} (readBack : ReadBack value) (depth : Nat)
    {state : State} {before : List (Text × Value)} {frames : List Frame}
    (awaits : state.AwaitsName frames before) {rest : Text} (ends : Delimited rest) :
    readFrom? state (encodeText name ++ ':' :: ' ' :: encodeAt depth value ++ rest) =
      readFrom? ⟨.record before name :: frames, .done (valueOf value)⟩ rest := by
  have shape : encodeText name ++ ':' :: ' ' :: encodeAt depth value ++ rest =
      encodeText name ++ (':' :: ' ' :: (encodeAt depth value ++ rest)) := by simp
  have colon (tail : Text) : token? (':' :: tail) = some (.colon, tail) := rfl
  rw [shape, readFrom?_token (token?_text _ _), awaits name]
  calc
    _ = readFrom? ⟨frames, .colon before name⟩ (':' :: ' ' :: (encodeAt depth value ++ rest)) := rfl
    _ = readFrom? ⟨.record before name :: frames, .value⟩ (' ' :: (encodeAt depth value ++ rest)) :=
      readFrom?_token (colon _) _
    _ = _ := by rw [readFrom?_space rfl, readBack depth _ _ (awaits_value _) rest ends]

section Fields

variable {fields : List (Text × Document)}

theorem readFrom?_fields (all : ∀ field ∈ fields, ReadBack field.2) (someField : fields ≠ [])
    (depth outer : Nat) {state : State} {before : List (Text × Value)} {frames : List Frame}
    (awaits : state.AwaitsName frames before)
    (names : (before.map Prod.fst ++ fields.map Prod.fst).Nodup) (rest : Text) :
    readFrom? state (Text.join (',' :: newline depth) (encodeFields depth fields) ++
      (newline outer ++ '\x7d' :: rest)) =
        readFrom? ⟨frames, .done (.record (before ++ fieldValues fields))⟩ rest := by
  induction fields generalizing state before with
  | nil => exact absurd rfl someField
  | cons field tail ih =>
    obtain ⟨name, value⟩ := field
    have readValue := all (name, value) List.mem_cons_self
    have fresh : name ∉ before.map Prod.fst := by
      intro present
      exact (List.nodup_append.mp names).2.2 name present name List.mem_cons_self rfl
    have assigned := assign_new fresh (valueOf value)
    cases tail with
    | nil =>
      have closes : token? ('\x7d' :: rest) = some (.closeRecord, rest) := rfl
      rw [encodeFields, encodeFields, Text.join, readFrom?_field readValue depth awaits
        (delimited_newline _ _), readFrom?_newline, readFrom?_token closes]
      calc
        _ = readFrom? ⟨frames, .done (.record (assign before name (valueOf value)))⟩ rest := rfl
        _ = _ := by
          rw [assigned]
          rfl
    | cons next others =>
      have moved : ((before ++ [(name, valueOf value)]).map Prod.fst ++
          (next :: others).map Prod.fst).Nodup := by simpa using names
      have later := ih (fun other member => all other (List.mem_cons_of_mem _ member)) (by simp)
        (awaitsName_name frames (before ++ [(name, valueOf value)])) moved
      have shape : Text.join (',' :: newline depth) (encodeFields depth ((name, value) :: next :: others)) ++
          (newline outer ++ '\x7d' :: rest) = (encodeText name ++ ':' :: ' ' :: encodeAt depth value) ++
            (',' :: (newline depth ++
              (Text.join (',' :: newline depth) (encodeFields depth (next :: others)) ++
                (newline outer ++ '\x7d' :: rest)))) := by
        simp [encodeFields, Text.join]
      have goesOn (tail : Text) : token? (',' :: tail) = some (.comma, tail) := rfl
      rw [shape, readFrom?_field readValue depth awaits (delimited_comma _), readFrom?_token (goesOn _)]
      calc
        _ = readFrom? ⟨frames, .name (assign before name (valueOf value))⟩ (newline depth ++
            (Text.join (',' :: newline depth) (encodeFields depth (next :: others)) ++
              (newline outer ++ '\x7d' :: rest))) := rfl
        _ = _ := by
          rw [readFrom?_newline, assigned, later]
          simp [fieldValues]

theorem readBack_record (all : ∀ field ∈ fields, ReadBack field.2)
    (names : (fields.map Prod.fst).Nodup) : ReadBack (.record fields) := by
  intro depth state frames awaits rest _
  have opens (tail : Text) : token? ('\x7b' :: tail) = some (.openRecord, tail) := rfl
  cases fields with
  | nil =>
    have closes : token? ('\x7d' :: rest) = some (.closeRecord, rest) := rfl
    have shape : encodeAt depth (.record []) ++ rest = '\x7b' :: '\x7d' :: rest := rfl
    rw [shape, readFrom?_token (opens _), awaits _ (by simp)]
    exact readFrom?_token closes _
  | cons field others =>
    have shape : encodeAt depth (.record (field :: others)) ++ rest = '\x7b' :: (newline (depth + 1) ++
        (Text.join (',' :: newline (depth + 1)) (encodeFields (depth + 1) (field :: others)) ++
          (newline depth ++ '\x7d' :: rest))) := by
      simp [encodeAt, bracketed, encodeFields]
    rw [shape, readFrom?_token (opens _), awaits _ (by simp)]
    calc
      _ = readFrom? ⟨frames, .field⟩ (newline (depth + 1) ++
          (Text.join (',' :: newline (depth + 1)) (encodeFields (depth + 1) (field :: others)) ++
            (newline depth ++ '\x7d' :: rest))) := rfl
      _ = _ := by
        rw [readFrom?_newline, readFrom?_fields all (by simp) _ _ (awaitsName_field frames) names]
        rfl

end Fields

theorem readBack_of_distinct {document : Document} (distinct : Distinct document) :
    ReadBack document := by
  induction distinct with
  | text written => exact readBack_text written
  | number value => exact readBack_number value
  | list _ ih => exact readBack_list ih
  | record names _ ih => exact readBack_record ih names

theorem read?_encode {document : Document} (distinct : Distinct document) :
    read? (encode document) = some (valueOf document) := by
  have whole := readBack_of_distinct distinct 0 ⟨[], .value⟩ [] (awaits_value []) [] (by simp [Delimited])
  rw [List.append_nil] at whole
  rw [read?, encode, whole, readFrom?_nil]
  rfl

end RouteReport.Document.Json
