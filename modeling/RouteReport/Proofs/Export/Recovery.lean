import RouteReport.Export
import RouteReport.Proofs.Document.JsonRoundTrip

/-! What an export tells. The JSON of a report is read back as the document that was written, and the
routes with their resolutions, the engines and the failure are found in it again. -/

namespace RouteReport.Export

open Document.Json (Value)

structure MethodFacts where
  name : Text
  file : Text
  line : Nat
  deriving DecidableEq, Repr

structure ResolutionFacts where
  status : ActionStatus
  className : Option Text
  method : Option MethodFacts
  deriving DecidableEq, Repr

structure RouteFacts where
  verb : Verb
  path : Text
  controller : Text
  action : Text
  name : Text
  type : RouteType
  resolution : Option ResolutionFacts
  deriving DecidableEq, Repr

/-- What an export is to tell of a report. -/
structure Facts where
  routes : List RouteFacts
  engines : List Engine
  failure : Failure
  deriving DecidableEq, Repr

def ResolutionFacts.of (action : Action) : ResolutionFacts where
  status := action.status
  className := action.controllerClass.map (·.qualifiedName)
  method := action.method.map fun method => ⟨method.qualifiedName, method.file, method.line⟩

def RouteFacts.of (route : Route) (action : Option Action) : RouteFacts where
  verb := route.verb
  path := route.path
  controller := route.controller
  action := route.action
  name := route.name
  type := route.type
  resolution := action.map ResolutionFacts.of

/-- A failure that is not reported is none. -/
def Facts.of (routes : Routes) (reader : Reader) (actions : List (Option Action)) : Facts where
  routes := List.zipWith RouteFacts.of routes actions
  engines := reader.engines
  failure := if reader.failure.isReported then reader.failure else .absent

def field? (value : Value) (name : String) : Option Value :=
  match value with
  | .record fields => fields.lookup name.toList
  | _ => none

def text? : Value → Option Text
  | .text written => some written
  | _ => none

def items? : Value → Option (List Value)
  | .list items => some items
  | _ => none

def natural? : Value → Option Nat
  | .number ⟨.ofNat n, 0⟩ => some n
  | _ => none

def textField? (value : Value) (name : String) : Option Text := field? value name >>= text?

def named? {α : Type} (table : List α) (nameOf : α → Text) (name : Text) : Option α :=
  table.find? fun entry => nameOf entry == name

def methodFacts? (value : Value) : Option MethodFacts := do
  return ⟨← textField? value "method", ← textField? value "file", ← field? value "line" >>= natural?⟩

def resolutionFacts? (value : Value) : Option ResolutionFacts := do
  let status ← textField? value "status"
  let status ← named? [.publicAction, .protectedOrPrivate, .unresolved] ActionStatus.name status
  return ⟨status, textField? value "class", methodFacts? value⟩

def routeFacts? (value : Value) : Option RouteFacts := do
  let verb ← named? Verb.all Verb.name (← textField? value "verb")
  let type ← named? RouteType.all RouteType.name (← textField? value "type")
  return ⟨verb, ← textField? value "path", ← textField? value "controller",
    ← textField? value "action", ← textField? value "name", type,
    field? value "resolution" >>= resolutionFacts?⟩

def engine? (value : Value) : Option Engine := do
  return ⟨← textField? value "name", ← textField? value "mount_path"⟩

def reportedFailure? (error : Value) : Option Failure := do
  let code ← named? [.none, .general, .taskNotFound] FailureCode.name (← textField? error "code")
  return ⟨code, ← textField? error "stacktrace"⟩

/-- A document without an error tells of no failure. -/
def failure? (value : Value) : Option Failure :=
  match field? value "error" with
  | none => some .absent
  | some error => reportedFailure? error

def facts? (value : Value) : Option Facts := do
  return ⟨← (← field? value "routes" >>= items?).mapM routeFacts?,
    ← (← field? value "engines" >>= items?).mapM engine?, ← failure? value⟩

open Document.Json (valueOf valuesOf encode read? Distinct)

theorem resolutionFacts?_actionDocument (action : Action) :
    resolutionFacts? (valueOf (actionDocument action)) = some (.of action) := by
  have status : textField? (valueOf (actionDocument action)) "status" = some action.status.name := rfl
  have className : textField? (valueOf (actionDocument action)) "class" =
      action.controllerClass.map (·.qualifiedName) := by
    unfold actionDocument
    cases action.controllerClass <;> cases action.method <;> rfl
  have method : methodFacts? (valueOf (actionDocument action)) =
      action.method.map fun method => ⟨method.qualifiedName, method.file, method.line⟩ := by
    unfold actionDocument
    cases action.controllerClass <;> cases action.method <;> rfl
  have known : named? [.publicAction, .protectedOrPrivate, .unresolved] ActionStatus.name
      action.status.name = some action.status := by cases action.status <;> decide
  simp only [resolutionFacts?, status, known, className, method, Option.bind_eq_bind, Option.bind_some,
    Option.pure_def, ResolutionFacts.of]

theorem routeFacts?_routeDocument (route : Route) (action : Option Action) :
    routeFacts? (valueOf (routeDocument route action)) = some (.of route action) := by
  have resolution : field? (valueOf (routeDocument route action)) "resolution" =
      action.map fun action => valueOf (actionDocument action) := by
    unfold routeDocument
    cases route.params <;> cases action <;> rfl
  have resolved : (action.map fun action => valueOf (actionDocument action)).bind resolutionFacts? =
      action.map ResolutionFacts.of := by
    cases action with
    | none => rfl
    | some action => exact resolutionFacts?_actionDocument action
  have verb : named? Verb.all Verb.name route.verb.name = some route.verb := by
    cases route.verb <;> decide
  have type : named? RouteType.all RouteType.name route.type.name = some route.type := by
    cases route.type <;> decide
  -- the first six fields stand in front of those that may be left out
  have fields : ["verb", "path", "controller", "action", "name", "type"].map
      (textField? (valueOf (routeDocument route action))) = [some route.verb.name, some route.path,
        some route.controller, some route.action, some route.name, some route.type.name] := rfl
  simp only [List.map_cons, List.map_nil, List.cons.injEq, and_true] at fields
  simp only [routeFacts?, fields, verb, type, resolution, resolved, Option.bind_eq_bind, Option.bind_some,
    Option.pure_def, RouteFacts.of]

theorem engine?_engineDocument (engine : Engine) :
    engine? (valueOf (engineDocument engine)) = some engine := rfl

theorem mapM_valuesOf {α β : Type} {write : α → Document} {read : Value → Option β} {tell : α → β}
    (known : ∀ a, read (valueOf (write a)) = some (tell a)) (items : List α) :
    (valuesOf (items.map write)).mapM read = some (items.map tell) := by
  induction items with
  | nil => rfl
  | cons item rest ih =>
    rw [List.map_cons, valuesOf, List.mapM_cons, known, ih]
    rfl

theorem distinct_actionDocument (action : Action) : Distinct (actionDocument action) := by
  unfold actionDocument
  apply Distinct.record
  · cases action.controllerClass <;> cases action.method <;> simp [field]
  · cases action.controllerClass <;> cases action.method <;> simp [field, Distinct.text, Distinct.number]

theorem distinct_list {α : Type} {write : α → Document} (all : ∀ a, Distinct (write a)) (items : List α) :
    Distinct (.list (items.map write)) := .list (List.forall_mem_map.mpr fun a _ => all a)

theorem distinct_routeDocument (route : Route) (action : Option Action) :
    Distinct (routeDocument route action) := by
  unfold routeDocument
  apply Distinct.record
  · cases route.params <;> cases action <;> simp [field]
  · have resolution := distinct_actionDocument
    cases route.params with
    | nil => cases action <;> simp [field, Distinct.text, resolution]
    | cons first others =>
      have params := distinct_list Distinct.text (first :: others)
      rw [List.map_cons] at params
      cases action <;> simp [field, Distinct.text, params, resolution]

theorem distinct_document (routes : Routes) (reader : Reader) (actions : Option (List (Option Action))) :
    Distinct (document routes (some reader) actions) := by
  have routesField : Distinct (.list ((withActions routes actions).map fun entry =>
      routeDocument entry.1 entry.2)) :=
    distinct_list (fun entry : Route × Option Action => distinct_routeDocument entry.1 entry.2) _
  have enginesField : Distinct (.list (reader.engines.map engineDocument)) := by
    apply distinct_list
    intro engine
    exact .record (by simp [field]) (by simp [field, Distinct.text])
  have errorField : ∀ entry ∈ failureFields reader.failure, Distinct entry.2 := by
    unfold failureFields
    split
    · intro entry member
      cases List.mem_singleton.mp member
      exact .record (by simp [field]) (by simp [field, Distinct.text])
    · simp
  have errorName : (failureFields reader.failure).map Prod.fst = [] ∨
      (failureFields reader.failure).map Prod.fst = ["error".toList] := by
    unfold failureFields
    split <;> simp [field]
  unfold document
  apply Distinct.record
  · rcases errorName with none | one
    · simp [field, none]
    · simp [field, one]
  · simp only [List.forall_mem_cons]
    exact ⟨routesField, enginesField, errorField⟩

theorem withActions_of_length {routes : Routes} {actions : List (Option Action)}
    (sameLength : actions.length = routes.length) :
    withActions routes (some actions) = routes.zip actions := by
  cases actions with
  | nil => simp [withActions, List.length_eq_zero_iff.mp sameLength.symm]
  | cons first others => rfl

theorem reportedFailure?_record (failure : Failure) :
    reportedFailure? (valueOf (.record [field "code" (.text failure.code.name),
      field "stacktrace" (.text failure.trace)])) = some failure := by
  obtain ⟨code, trace⟩ := failure
  cases code <;> rfl

theorem failure?_document (routes : Routes) (reader : Reader) (actions : Option (List (Option Action))) :
    failure? (valueOf (document routes (some reader) actions)) =
      some (if reader.failure.isReported then reader.failure else .absent) := by
  cases reported : reader.failure.isReported with
  | false =>
    have absent : field? (valueOf (document routes (some reader) actions)) "error" = none := by
      simp only [document, failureFields, reported]
      rfl
    rw [failure?, absent]
    rfl
  | true =>
    have present : field? (valueOf (document routes (some reader) actions)) "error" =
        some (valueOf (.record [field "code" (.text reader.failure.code.name),
          field "stacktrace" (.text reader.failure.trace)])) := by
      simp only [document, failureFields, reported]
      rfl
    rw [failure?, present]
    exact reportedFailure?_record reader.failure

theorem routes_of_document {routes : Routes} {actions : List (Option Action)} (reader : Reader)
    (sameLength : actions.length = routes.length) :
    field? (valueOf (document routes (some reader) (some actions))) "routes" >>= items? =
      some (valuesOf ((routes.zip actions).map fun entry => routeDocument entry.1 entry.2)) := by
  rw [document, withActions_of_length sameLength]
  rfl

theorem facts?_document {routes : Routes} {actions : List (Option Action)} (reader : Reader)
    (sameLength : actions.length = routes.length) :
    facts? (valueOf (document routes (some reader) (some actions))) = some (.of routes reader actions) := by
  have enginesField : field? (valueOf (document routes (some reader) (some actions))) "engines" >>=
      items? = some (valuesOf (reader.engines.map engineDocument)) := rfl
  have readRoutes : (valuesOf ((routes.zip actions).map fun entry =>
      routeDocument entry.1 entry.2)).mapM routeFacts? = some (List.zipWith RouteFacts.of routes actions) := by
    rw [← List.map_uncurry_zip_eq_zipWith]
    exact mapM_valuesOf (fun entry : Route × Option Action =>
      routeFacts?_routeDocument entry.1 entry.2) (routes.zip actions)
  have readEngines : (valuesOf (reader.engines.map engineDocument)).mapM engine? = some reader.engines := by
    simpa using mapM_valuesOf engine?_engineDocument reader.engines
  simp only [facts?, routes_of_document reader sameLength, readRoutes, enginesField, readEngines, failure?_document,
    Option.bind_eq_bind, Option.bind_some, Option.pure_def]
  rfl

theorem failure_of_errors {routes : Routes} {reader : Reader} {actions : List (Option Action)}
    {errors : Option Text} (read : reader.failure = .ofErrorOutput errors) :
    (Facts.of routes reader actions).failure = reader.failure := by
  have silent : reader.failure.isReported = false → reader.failure = .absent := by
    rw [read]
    unfold Failure.ofErrorOutput
    split
    · simp
    · dsimp only
      split_ifs <;> simp [Failure.isReported]
  unfold Facts.of
  cases reported : reader.failure.isReported with
  | true => simp
  | false => simp [silent reported]

/-- The JSON of a report is read back as the document that was written. It has an object for each
route, in order, and the routes with their resolutions, the engines and the failure are found in it;
so they are the same for two reports with the same JSON. -/
theorem export_recovered (routes : Routes) (reader : Reader) (actions : List (Option Action))
    (sameLength : actions.length = routes.length) :
    read? (encode (document routes (some reader) (some actions))) =
        some (valueOf (document routes (some reader) (some actions))) ∧
      (field? (valueOf (document routes (some reader) (some actions))) "routes" >>= items?).map
        List.length = some routes.length ∧
      facts? (valueOf (document routes (some reader) (some actions))) = some (.of routes reader actions) ∧
      (∀ errors, reader.failure = .ofErrorOutput errors →
        (Facts.of routes reader actions).failure = reader.failure) ∧
      ∀ (otherRoutes : Routes) (otherReader : Reader) (otherActions : List (Option Action)),
        otherActions.length = otherRoutes.length →
        encode (document otherRoutes (some otherReader) (some otherActions)) =
          encode (document routes (some reader) (some actions)) →
        document otherRoutes (some otherReader) (some otherActions) =
            document routes (some reader) (some actions) ∧
          Facts.of otherRoutes otherReader otherActions = .of routes reader actions := by
  have readBack := Document.Json.read?_encode (distinct_document routes reader (some actions))
  have facts := facts?_document reader sameLength
  refine ⟨readBack, ?_, facts, fun errors read => failure_of_errors read, ?_⟩
  · rw [routes_of_document reader sameLength]
    simp [Document.Json.valuesOf_eq_map, sameLength]
  · intro otherRoutes otherReader otherActions otherLength sameText
    have otherBack := Document.Json.read?_encode
      (distinct_document otherRoutes otherReader (some otherActions))
    rw [sameText, readBack, Option.some.injEq] at otherBack
    have otherFacts := facts?_document otherReader otherLength
    rw [← otherBack, facts, Option.some.injEq] at otherFacts
    exact ⟨Document.Json.valueOf_injective otherBack.symm, otherFacts.symm⟩

def quotedRoutes : Routes :=
  [⟨none, .get, "/caf\u00e9/:id".toList, "users".toList, "show".toList, "user".toList, .normal⟩,
    ⟨none, .any, "/\"a\\b\"/😀".toList, "Blog::Engine".toList, [], "blog".toList, .mounted⟩]

def quotedErrors : Text := "rake aborted!\n\x07 no \"routes\"\nTasks: TOP => routes\n".toList

def quotedReader : Reader where
  application := none
  engines := [⟨"Blog::Engine".toList, "/\"a\\b\"/😀".toList⟩]
  failure := .ofErrorOutput (some quotedErrors)

def quotedActions : List (Option Action) :=
  [some ⟨some (.new .classKind "UsersController".toList),
    some ⟨"show".toList, .classKind, "UsersController".toList, .publicMethod, 0,
      "app/controllers/users_controller.rb".toList, 4⟩⟩, none]

theorem export_recovered_of_quoted :
    quotedActions.length = quotedRoutes.length ∧
      (read? (encode (document quotedRoutes (some quotedReader) (some quotedActions)))).bind facts? =
        some (.of quotedRoutes quotedReader quotedActions) ∧
      (Facts.of quotedRoutes quotedReader quotedActions).failure = quotedReader.failure := by
  obtain ⟨readBack, _, facts, failure, _⟩ := export_recovered quotedRoutes quotedReader quotedActions rfl
  refine ⟨rfl, ?_, failure (some quotedErrors) rfl⟩
  rw [readBack]
  exact facts

end RouteReport.Export
