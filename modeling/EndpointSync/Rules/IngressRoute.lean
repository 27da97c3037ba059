import EndpointSync.Cluster.IngressRoute
import EndpointSync.Rules

/-!
# Rules for ingress routes

An ingress route is monitored at the first host that its rules match, encrypted if the route is.
-/

namespace EndpointSync.Rules.IngressRoute

open Cluster (Object)
open Cluster.IngressRoute (firstHost? isEncrypted)

def url (o : Object) : String :=
  match firstHost? o with
  | some host => (if isEncrypted o then "https" else "http") ++ "://" ++ host
  | none => ""

def rules : Rules Object where
  resource := ⟨"traefik.io", "v1alpha1", "IngressRoute", "ingressroutes"⟩
  decode := some
  metadata := Object.metadata
  autoEnabled c := c.autoIngressRoute
  url := some url
  conditions := some [statusOk]
  guardedHost := some firstHost?

end EndpointSync.Rules.IngressRoute
