import EndpointSync.Cluster.Ingress
import EndpointSync.Rules

/-!
# Rules for ingresses

An ingress is monitored at its first host, encrypted if the ingress serves that host so. It inherits
from its class.
-/

namespace EndpointSync.Rules.Ingress

open Cluster (Ingress)

/-- The group of ingresses and their classes. -/
def networkingGroup : String := "networking.k8s.io"

def inScope (i : Ingress) (c : Config) : Bool :=
  c.ingressClass.all fun expected ↦ i.class? == some expected

/-- The URL of a host, which may be a URL itself. -/
def urlOf (i : Ingress) (host : String) : String :=
  if host.startsWith "http://" || host.startsWith "https://" then host
  else if host ∈ i.tlsHosts then "https://" ++ host
  else "http://" ++ host

def url (i : Ingress) : String := (i.firstHost?.map (urlOf i)).getD ""

def parent? (i : Ingress) : Option ParentRef :=
  i.class?.map fun name ↦
    ⟨⟨networkingGroup, "v1", "IngressClass", "ingressclasses"⟩, none, name⟩

def rules : Rules Ingress where
  resource := ⟨networkingGroup, "v1", "Ingress", "ingresses"⟩
  decode := Ingress.ofObject?
  metadata := Ingress.metadata
  autoEnabled c := c.autoIngress
  filter := some inScope
  url := some url
  conditions := some [statusOk]
  guardedHost := some fun i ↦ some (i.firstHost?.getD "")
  group := some Ingress.class?
  parent := some parent?

end EndpointSync.Rules.Ingress
