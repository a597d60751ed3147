import RouteReport.Route.Basic

namespace RouteReport

abbrev Routes := List Route

namespace Routes

def controllers (routes : Routes) : List Text :=
  ((routes.filter fun route => !route.controller.isEmpty && route.type = .normal).map
    (·.controller)).eraseDups

def countByVerb (routes : Routes) : List (Verb × Nat) :=
  let verbs := routes.map (·.verb)
  verbs.eraseDups.map fun verb => (verb, verbs.count verb)

def ofType (routes : Routes) (type : RouteType) : Routes := routes.filter (·.type = type)

def matching (routes : Routes) (query : Text) : Routes :=
  if query.isEmpty then routes else routes.filter (·.answers query)

def at? (routes : Routes) (index : Int) : Option Route :=
  let place := if index < 0 then index + routes.length else index
  if place < 0 then none else routes[place.toNat]?

end Routes

end RouteReport
