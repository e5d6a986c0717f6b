import Gatehouse.Routing.Condition
import Gatehouse.Service
import Gatehouse.Table

/-!
# The registry

The services in operation, each under its conditions. A request goes to the first service, in order
of precedence, whose conditions all hold. The table is replaced as a whole when the configuration is
loaded again.

## Contract

* Precedence is by priority, then by the number of conditions, then by place in the configuration.
* The generation of a service grows when its list of nodes changes, and only then. The last list of
  a service that was removed is remembered, so that it takes up where it left off when it is added
  again.
-/

namespace Gatehouse

/-- A service under its conditions. -/
structure Route where
  conditions : List Condition
  priority : UInt32
  service : Service

namespace Route

/-- Whether all conditions of a route hold of a request. -/
def accepts (t : Route) (r : RequestHead) : Bool := Condition.allHold r t.conditions

/-- Whether one route goes before another, or could. -/
def precedes (a b : Route) : Bool :=
  b.priority < a.priority ||
    (a.priority = b.priority && b.conditions.length ≤ a.conditions.length)

end Route

/-- The conditions of a configured service. -/
def ServiceConfig.conditions (c : ServiceConfig) : List Condition :=
  (c.host.map Condition.ofHost).toList ++ (c.pathPrefix.map Condition.ofPathPrefix).toList

/-- For each service that ever was, its last list of nodes and the generation of that list. -/
abbrev Generations := Table String (List Node × Nat)

/-- The generation of a list of nodes of a service, given those before. -/
def Generations.next (g : Generations) (id : String) (nodes : List Node) : Nat :=
  match g.get? id with
  | some (earlier, n) => if earlier = nodes then n else n + 1
  | none => 0

/-- The services in operation. -/
structure Registry where
  /-- The routes, in order of precedence. -/
  routes : List Route
  generations : Generations

namespace Registry

/-- The route of a configured service, given the generations before. -/
def routeOf (earlier : Generations) (c : ServiceConfig) : Route :=
  { conditions := c.conditions, priority := c.priority,
    service := Service.ofConfig c (earlier.next c.id c.nodes) }

/-- Notes the list of nodes of a configured service. -/
def noteNodes (earlier : Generations) (g : Generations) (c : ServiceConfig) : Generations :=
  g.set c.id (c.nodes, earlier.next c.id c.nodes)

/-- The registry of a list of services, given the generations before. -/
def compile (services : List ServiceConfig) (earlier : Generations) : Registry :=
  { routes := (services.map (routeOf earlier)).mergeSort Route.precedes,
    generations := services.foldl (noteNodes earlier) earlier }

/-- The first registry. -/
def ofConfig (services : List ServiceConfig) : Registry := compile services Table.empty

/-- The registry after the services were replaced. -/
def reload (r : Registry) (services : List ServiceConfig) : Registry :=
  compile services r.generations

/-- The service that a request goes to. -/
def resolve (r : Registry) (head : RequestHead) : Option Service :=
  (r.routes.find? fun t => t.accepts head).map Route.service

/-- The first service of a name, in order of precedence. -/
def get? (r : Registry) (id : String) : Option Service :=
  (r.routes.find? fun t => t.service.id = id).map Route.service

/-- The number of services. -/
def size (r : Registry) : Nat := r.routes.length

/-- Whether there are no services. -/
def isEmpty (r : Registry) : Bool := r.size == 0

end Registry

end Gatehouse
