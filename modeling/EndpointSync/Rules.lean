import EndpointSync.Cluster.Object
import EndpointSync.Cluster.Request
import EndpointSync.Config
import EndpointSync.Roster
import EndpointSync.Text.Quoted

/-!
# Rules for a kind of object

How objects of one kind become endpoints is a record of functions: which objects are in scope, what
URL they have, what a healthy answer is, and whose annotations they inherit. A part that a kind does
not have is left out, and the step that would use it does nothing.
-/

namespace EndpointSync

open Cluster (Metadata Object)
open Yaml (Mapping Tree)

/-- Names the object whose annotations are inherited. -/
structure ParentRef where
  resource : ApiResource
  /-- Unset for objects that belong to no namespace. -/
  namespaceName : Option String
  name : String
deriving DecidableEq, Repr

/-- The rules for objects of one kind, read as `κ`. -/
structure Rules (κ : Type) where
  resource : ApiResource
  /-- Reads an object of the kind. -/
  decode : Object → Option κ
  metadata : κ → Metadata
  /-- Objects are monitored even if no annotation asks for it. -/
  autoEnabled : Config → Bool
  /-- The objects in scope; all are if there is no filter. -/
  filter : Option (κ → Config → Bool) := none
  /-- The URL to monitor; empty if there is none. -/
  url : Option (κ → String) := none
  /-- What a healthy answer is, unless a template says otherwise. -/
  conditions : Option (List String) := none
  /-- The host whose name resolution stands for a guarded object. Where an object has none, its
  endpoint stays as it is. -/
  guardedHost : Option (κ → Option String) := none
  /-- The group of an object, where endpoints are grouped. -/
  group : Option (κ → Option String) := none
  parent : Option (κ → Option ParentRef) := none

/-- The answer of a web server that is well. -/
def statusOk : String := "[STATUS] == 200"

/-- The answer of a port that is open. -/
def connected : String := "[CONNECTED] == true"

/-- The resolver that is asked for guarded hosts. -/
def publicResolver : String := "1.1.1.1"

/-- What a name that resolves looks like. -/
def resolved : String := "len([BODY]) == 0"

/-- Turns an endpoint into a check that a name resolves. -/
def Endpoint.probeName (e : Endpoint) (host : String) : Endpoint :=
  { e with
    url := publicResolver
    dns := Mapping.insert (Mapping.insert e.dns (.str "query-name") (.str host))
      (.str "query-type") (.str "A")
    conditions := [resolved] }

namespace Rules

variable {κ : Type}

def inScope (r : Rules κ) (c : Config) (obj : κ) : Bool := r.filter.all fun f ↦ f obj c

def hasAnnotation (r : Rules κ) (obj : κ) (name : String) : Bool :=
  ((r.metadata obj).annotations.lookup name).isSome

/-- The object is to become an endpoint: it is in scope, and its kind is monitored anyway or one of
its annotations asks for it. -/
def shouldProcess (r : Rules κ) (c : Config) (obj : κ) : Bool :=
  r.inScope c obj &&
    (r.autoEnabled c || r.hasAnnotation obj c.enabledKey ||
      r.hasAnnotation obj c.templateKey)

def url? (r : Rules κ) (obj : κ) : Option String := (r.url.map (· obj)).filter (· ≠ "")

def group? (r : Rules κ) (obj : κ) : Option String := r.group.bind (· obj)

def parent? (r : Rules κ) (obj : κ) : Option ParentRef := r.parent.bind (· obj)

/-- Sets the group, where endpoints are grouped. -/
def assignGroup (r : Rules κ) (c : Config) (obj : κ) (e : Endpoint) : Endpoint :=
  if c.autoGroup then { e with group := (r.group? obj).getD e.group } else e

def assignConditions (r : Rules κ) (e : Endpoint) : Endpoint :=
  { e with conditions := r.conditions.getD e.conditions }

/-- Makes a guarded endpoint a check that its name resolves, if the kind has a way to, and gives
every other endpoint the conditions of its kind. -/
def assignCheck (r : Rules κ) (obj : κ) (e : Endpoint) : Endpoint :=
  match r.guardedHost with
  | some host =>
    if e.guarded then
      match host obj with
      | some h => e.probeName h
      | none => e
    else r.assignConditions e
  | none => r.assignConditions e

/-- The endpoint with what its kind prescribes. -/
def prescribe (r : Rules κ) (c : Config) (obj : κ) (e : Endpoint) : Endpoint :=
  r.assignCheck obj (r.assignGroup c obj e)

/-- The name and the namespace of an object. -/
def keyOf (r : Rules κ) (m : Metadata) : Key where
  name := m.anyName
  namespaceName := m.namespaceName.getD ""
  resource := r.resource.plural

/-! ## Diagnostics -/

/-- A truth value in diagnostics. -/
def flagText (b : Bool) : String := if b then "true" else "false"

def describe (r : Rules κ) : String :=
  "Definition \x7b resource: " ++ Text.quoted r.resource.plural ++
    ", filter: " ++ flagText r.filter.isSome ++
    ", apply_guarded: " ++ flagText r.guardedHost.isSome ++
    ", parent: " ++ flagText r.parent.isSome ++ ", .. \x7d"

/-- The rules in use, with or without a cluster to look parents up in, as one line of
diagnostics. -/
def describeUse (r : Rules κ) (connected : Bool) : String :=
  "Handler \x7b definition: " ++ r.describe ++ ", client: " ++ flagText connected ++ " \x7d"

end Rules

end EndpointSync
