import EndpointSync.Rules.HttpRoute
import EndpointSync.Rules.Ingress
import EndpointSync.Rules.IngressRoute
import EndpointSync.Rules.Service

/-!
# The rules of each kind
-/

namespace EndpointSync.Kind

/-- What objects of a kind are read as. -/
abbrev Form : Kind → Type
  | .httpRoute => Cluster.HttpRoute
  | .ingress => Cluster.Ingress
  | .service => Cluster.Service
  | .ingressRoute => Cluster.Object

def rules : (k : Kind) → Rules k.Form
  | .httpRoute => Rules.HttpRoute.rules
  | .ingress => Rules.Ingress.rules
  | .service => Rules.Service.rules
  | .ingressRoute => Rules.IngressRoute.rules

end EndpointSync.Kind
