import RouteReport.Text.Word

namespace RouteReport

def scopeMark : Text := [':', ':']

def isConstantSegment : Text → Bool
  | [] => false
  | c :: rest => Text.isAsciiUpper c && rest.all Text.isWord

def scopeSegments : Text → List Text
  | [] => [[]]
  | ':' :: ':' :: rest => [] :: scopeSegments rest
  | c :: rest =>
    match scopeSegments rest with
    | piece :: pieces => (c :: piece) :: pieces
    | [] => [[c]]

def isConstantPath (text : Text) : Bool :=
  (scopeSegments ((text.afterPrefix? scopeMark).getD text)).all isConstantSegment

/-- A constant path, possibly ended by one line feed. -/
def isConstantName (text : Text) : Bool :=
  isConstantPath ((text.beforeSuffix? ['\n']).getD text)

/-- Everything before the last `::`; a top-level name has the empty namespace. -/
def namespaceOf (name : Text) : Text :=
  match name.cutLast? scopeMark with
  | some (outer, _) => outer
  | none => []

def baseName (name : Text) : Text :=
  match name.cutLast? scopeMark with
  | some (_, base) => base
  | none => name

theorem length_namespaceOf_lt {name : Text} (nonempty : name ≠ []) :
    (namespaceOf name).length < name.length := by
  cases found : name.cutLast? scopeMark with
  | none => simpa [namespaceOf, found] using List.length_pos_iff.mpr nonempty
  | some parts =>
    have whole := congrArg List.length (Text.append_of_cutLast? found)
    simp only [List.length_append, scopeMark, List.length_cons, List.length_nil] at whole
    simp only [namespaceOf, found]
    omega

end RouteReport
