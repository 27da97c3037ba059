/-!
# Kinds of cluster objects

The kinds of objects that endpoints are derived from, in the order in which they are started.
-/

namespace EndpointSync

inductive Kind where
  | httpRoute | ingress | service | ingressRoute
deriving DecidableEq, Repr, Inhabited

namespace Kind

def all : List Kind := [.httpRoute, .ingress, .service, .ingressRoute]

/-- The name of a kind on the command line. -/
def name : Kind → String
  | .httpRoute => "httproute"
  | .ingress => "ingress"
  | .service => "service"
  | .ingressRoute => "ingressroute"

def ofName? (name : String) : Option Kind := all.find? (·.name == name)

/-- The kind of a name whose case does not count. -/
def ofNameIgnoringCase? (name : String) : Option Kind := ofName? (name.map Char.toLower)

/-- The kinds of a list in order, each once. -/
def distinct (kinds : List Kind) : List Kind := all.filter (· ∈ kinds)

end Kind

end EndpointSync
