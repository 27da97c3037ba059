import EndpointSync.Cluster.HttpRoute
import EndpointSync.Rules

/-!
# Rules for HTTP routes

A route is monitored at its first hostname. It inherits from the first object that it attaches to,
if that is a gateway.
-/

namespace EndpointSync.Rules.HttpRoute

open Cluster (HttpRoute)

/-- The group of the gateway API. -/
def gatewayGroup : String := "gateway.networking.k8s.io"

/-- The route attaches to the gateway that is configured, if one is. -/
def inScope (r : HttpRoute) (c : Config) : Bool :=
  c.gatewayName.all fun gateway ↦ r.parents.any (·.name == gateway)

/-- The URL of the first hostname, which may be a URL itself. -/
def url (r : HttpRoute) : String :=
  match r.firstHostname? with
  | some host => if host.startsWith "http" then host else "https://" ++ host
  | none => ""

/-- The gateway that annotations are inherited from. It is in the route's own namespace unless the
reference names another. -/
def parent? (r : HttpRoute) : Option ParentRef :=
  r.parents.head?.bind fun p ↦
    if p.isGateway then
      some {
        resource := ⟨p.group.getD gatewayGroup, "v1", "Gateway", "gateways"⟩
        namespaceName := p.namespaceName.or r.metadata.namespaceName
        name := p.name }
    else none

def rules : Rules HttpRoute where
  resource := ⟨gatewayGroup, "v1", "HTTPRoute", "httproutes"⟩
  decode := HttpRoute.ofObject?
  metadata := HttpRoute.metadata
  autoEnabled c := c.autoHttpRoute
  filter := some inScope
  url := some url
  conditions := some [statusOk]
  guardedHost := some fun r ↦ some (r.firstHostname?.getD "")
  group := some fun r ↦ r.parents.head?.map (·.name)
  parent := some parent?

end EndpointSync.Rules.HttpRoute
