import EndpointSync.Cluster.Object

/-!
# Services

A service is reached through its ports. Of a port only the number and the protocol matter.
-/

namespace EndpointSync.Cluster

structure ServicePort where
  protocol : Option String
  number : Int
deriving DecidableEq, Repr

structure Service where
  metadata : Metadata
  ports : List ServicePort
deriving Inhabited

namespace Service

/-- The shape of where a load balancer is reached. -/
def loadBalancerShape (texts : List String) : Shape := .record [
  ("ingress", .listOf (.record (Shape.texts texts ++
    [("ports", .listOf (.record (Shape.texts ["error", "protocol"] ++ [("port", .int32)])))])))]

def conditionShape : Shape := .record (
  Shape.texts ["message", "reason", "status", "type"] ++
  [("lastTransitionTime", .timestamp), ("observedGeneration", .int64)])

def shape : Shape := .record [
  ("spec", .record (
    Shape.texts ["clusterIP", "externalName", "externalTrafficPolicy", "internalTrafficPolicy",
      "ipFamilyPolicy", "loadBalancerClass", "loadBalancerIP", "sessionAffinity",
      "trafficDistribution", "type"] ++
    [("allocateLoadBalancerNodePorts", .flag), ("publishNotReadyAddresses", .flag),
     ("clusterIPs", .listOf .text), ("externalIPs", .listOf .text), ("ipFamilies", .listOf .text),
     ("loadBalancerSourceRanges", .listOf .text), ("healthCheckNodePort", .int32),
     ("selector", .mapOf .text),
     ("sessionAffinityConfig", .record [("clientIP", .record [("timeoutSeconds", .int32)])]),
     ("ports", .listOf (.record (Shape.texts ["appProtocol", "name", "protocol"] ++
       [("nodePort", .int32), ("port", .int32), ("targetPort", .int32OrText)])))])),
  ("status", .record [
    ("conditions", .listOf conditionShape),
    ("loadBalancer", loadBalancerShape ["hostname", "ip", "ipMode"])])]

/-- A port; its number is zero if it has none. -/
def portOf (j : Json) : ServicePort where
  protocol := (j.present? "protocol").bind Json.str?
  number := match j.present? "port" with
    | some (.int n) => n
    | _ => 0

def portsOf (j : Json) : List ServicePort :=
  ((((j.present? "spec").bind fun s ↦ s.present? "ports").bind Json.arr?).getD []).map portOf

def ofObject? (o : Object) : Option Service :=
  if o.claims "v1" "Service" && shape.fits o.data then some ⟨o.metadata, portsOf o.data⟩ else none

end Service

end EndpointSync.Cluster
