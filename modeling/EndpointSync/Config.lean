import EndpointSync.Interval
import EndpointSync.Kind

/-!
# Configuration

Which objects become endpoints, which annotations say otherwise, and where the endpoints go.
-/

namespace EndpointSync

structure Config where
  /-- Only objects of this namespace count; all count if it is unset. -/
  namespaceName : Option String := none
  /-- Only HTTP routes that are attached to this gateway count. -/
  gatewayName : Option String := none
  /-- Only ingresses of this class count. -/
  ingressClass : Option String := none
  /-- Endpoints are grouped by gateway, class or namespace. -/
  autoGroup : Bool := false
  autoHttpRoute : Bool := true
  autoIngress : Bool := true
  autoService : Bool := false
  autoIngressRoute : Bool := true
  kinds : List Kind := [.httpRoute, .ingress, .service]
  output : String := "/config/gatus-sidecar.yaml"
  defaultInterval : Interval := .ofSeconds 60
  /-- The annotation that switches the monitoring of an object on or off. -/
  enabledKey : String := "gatus.home-operations.com/enabled"
  /-- The annotation that holds the template of an object. -/
  templateKey : String := "gatus.home-operations.com/endpoint"
  /-- The time before a watch is opened again. -/
  reconnectDelay : Interval := .ofSeconds 5
deriving DecidableEq, Repr, Inhabited

/-- Objects of a kind are monitored even if no annotation asks for it. -/
def Config.auto (c : Config) : Kind → Bool
  | .httpRoute => c.autoHttpRoute
  | .ingress => c.autoIngress
  | .service => c.autoService
  | .ingressRoute => c.autoIngressRoute

end EndpointSync
