import RouteReport.Naming.Constant
import RouteReport.Text.Blank

/-! What a constant may mean where it is written: its candidates, innermost scope first. -/

namespace RouteReport

def enclosingScopes (scope : Text) : List Text :=
  if _empty : scope = [] then [] else scope :: enclosingScopes (namespaceOf scope)
termination_by scope.length
decreasing_by exact length_namespaceOf_lt _empty

/-- A leading `::` names the top level and nothing else. -/
def lexicalCandidates (name scope : Text) : List Text :=
  let name := name.trim
  match name.afterPrefix? scopeMark with
  | some absolute => [absolute]
  | none => (enclosingScopes scope).map (· ++ scopeMark ++ name) ++ [name]

end RouteReport
