import EndpointSync.Cluster.Object

/-!
# Ingress routes

An ingress route matches requests by rules in a language of their own. A host is found in a rule
wherever it is matched by `Host` with one literal name in backticks. No shape is known for these
objects, so whatever does not look right is passed over.
-/

namespace EndpointSync.Cluster.IngressRoute

/-- What stands before a host in a rule. -/
def hostOpening : List Char := ['H', 'o', 's', 't', '(', '\x60']

/-- The host matched right at the start of the text: at least one character, up to a backtick that
is followed by a closing parenthesis. -/
def hostHere? (cs : List Char) : Option (List Char) :=
  if hostOpening.isPrefixOf cs then
    let rest := cs.drop hostOpening.length
    let host := rest.takeWhile (· ≠ '\x60')
    if host.isEmpty then none
    else if (rest.drop host.length).take 2 = ['\x60', ')'] then some host
    else none
  else none

def hostOfRule? : List Char → Option (List Char)
  | [] => none
  | c :: cs => (hostHere? (c :: cs)).or (hostOfRule? cs)

/-- A field of an object; null if there is none. -/
def child (j : Json) (name : String) : Json := (j.field? name).getD .null

def rules (o : Object) : List String :=
  (((child (child o.data "spec") "routes").arr?).getD []).filterMap fun r ↦ (child r "match").str?

def firstHost? (o : Object) : Option String :=
  (rules o).findSome? fun rule ↦ (hostOfRule? rule.toList).map String.ofList

/-- The route serves with encryption. -/
def isEncrypted (o : Object) : Bool := (child (child o.data "spec") "tls").isObj

end EndpointSync.Cluster.IngressRoute
