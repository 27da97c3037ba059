import EndpointSync.Cluster.Service
import EndpointSync.Rules
import EndpointSync.Text.Lowercase

/-!
# Rules for services

A service is monitored at its first port, under the name that it has inside the cluster.
-/

namespace EndpointSync.Rules.Service

open Cluster (Service ServicePort)

/-- The protocol of a port in small letters. -/
def protocolOf (p : ServicePort) : String :=
  Text.lowercase ((p.protocol.filter (· ≠ "")).getD "tcp")

def url (s : Service) : String :=
  match s.ports with
  | [] => ""
  | p :: _ =>
    protocolOf p ++ "://" ++ s.metadata.anyName ++ "." ++ s.metadata.namespaceName.getD "" ++
      ".svc:" ++ toString p.number

def rules : Rules Service where
  resource := ⟨"", "v1", "Service", "services"⟩
  decode := Service.ofObject?
  metadata := Service.metadata
  autoEnabled c := c.autoService
  url := some url
  conditions := some [connected]
  group := some fun s ↦ s.metadata.namespaceName

end EndpointSync.Rules.Service
