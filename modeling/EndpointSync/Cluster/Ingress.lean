import EndpointSync.Cluster.Service

/-!
# Ingresses

An ingress makes hosts reachable from outside. It names its class in its specification or, as older
ones do, in an annotation, and lists the hosts that it serves with encryption.
-/

namespace EndpointSync.Cluster

structure Ingress where
  metadata : Metadata
  className : Option String
  /-- The hosts of the rules; a rule may apply to all hosts. -/
  hosts : List (Option String)
  /-- The hosts that are served with encryption. -/
  tlsHosts : List String
deriving Inhabited

namespace Ingress

/-- The shape of what a rule leads to. -/
def backendShape : Shape := .record [
  ("service", .record [("name", .text), ("port", .record [("name", .text), ("number", .int32)])]),
  ("resource", .record (Shape.texts ["apiGroup", "kind", "name"]))]

def shape : Shape := .record [
  ("spec", .record [
    ("ingressClassName", .text),
    ("defaultBackend", backendShape),
    ("rules", .listOf (.record [
      ("host", .text),
      ("http", .record [("paths", .listOf (.record (
        Shape.texts ["path", "pathType"] ++ [("backend", backendShape)])))])])),
    ("tls", .listOf (.record [("hosts", .listOf .text), ("secretName", .text)]))]),
  ("status", .record [("loadBalancer", Service.loadBalancerShape ["hostname", "ip"])])]

/-- The items of a list in a field; none if it is unset. -/
def itemsOf (j : Json) (name : String) : List Json := ((j.present? name).bind Json.arr?).getD []

def ofObject? (o : Object) : Option Ingress :=
  if o.claims "networking.k8s.io/v1" "Ingress" && shape.fits o.data then
    let spec := (o.data.present? "spec").getD .null
    some {
      metadata := o.metadata
      className := (spec.present? "ingressClassName").bind Json.str?
      hosts := (itemsOf spec "rules").map fun rule ↦ (rule.present? "host").bind Json.str?
      tlsHosts := (itemsOf spec "tls").flatMap fun tls ↦ (itemsOf tls "hosts").filterMap Json.str? }
  else none

/-- The annotation in which older ingresses name their class. -/
def classKey : String := "kubernetes.io/ingress.class"

/-- The class of an ingress. The specification wins over the annotation, even if it is empty. -/
def class? (i : Ingress) : Option String :=
  (i.className.or (i.metadata.annotations.lookup classKey)).filter (· ≠ "")

/-- The first host that is not empty. -/
def firstHost? (i : Ingress) : Option String := (i.hosts.filterMap id).find? (· ≠ "")

end Ingress

end EndpointSync.Cluster
