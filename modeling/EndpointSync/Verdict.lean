import EndpointSync.Cluster.Response
import EndpointSync.Rules
import EndpointSync.Store

/-!
# What becomes of an object

An object is judged in two steps, since the annotations of its parent are looked up only if they
matter. The first step drops objects that are not to be monitored and passes over those without a
URL. The second lets the object and its parent say whether it is monitored after all, and builds the
endpoint: the defaults, what the kind prescribes, and the template on top.

The verdict does not depend on the store. What it does to the store is said by `Store.apply`.
-/

namespace EndpointSync

open Cluster (Lookup Object Server)

/-- What becomes of an object. -/
inductive Verdict where
  /-- It is not monitored, and an endpoint that it has is forgotten. -/
  | drop
  /-- It has nothing to monitor, and an endpoint that it has stays. -/
  | noUrl
  /-- A template does not read, and an endpoint that it has stays. -/
  | invalid (why : Template.Invalid)
  | endpoint (e : Endpoint)
deriving Inhabited

namespace Rules

variable {κ : Type}

/-! ## Annotations of the parent -/

/-- The parent as notices give it. -/
def parentName (p : ParentRef) : ParentName := ⟨p.resource.kind, p.name, p.namespaceName⟩

/-- What came of looking a parent up, and the request, if one was made. -/
def lookUp (server : Server) (p : ParentRef) : Option Request × Lookup :=
  match Request.ofObject? p.resource p.namespaceName p.name with
  | none => (none, .failed)
  | some request => (some request, (server request).lookup)

/-- The annotations that an object inherits. -/
structure Inherited where
  /-- Unset if the object has no parent, or none that was found. -/
  annotations : Option Annotations := none
  happenings : List Happening := []
  /-- The answer never comes. -/
  isPending : Bool := false
deriving Inhabited

/-- Looks up what an object inherits. A parent that is not found gives nothing, and neither does one
that cannot be asked for: an object is then judged as if it had no parent. -/
def inherited (r : Rules κ) (server : Option Server) (obj : κ) : Inherited :=
  match r.parent? obj, server with
  | some p, some server =>
    let (request, answer) := lookUp server p
    let asked := request.toList.map .requested
    match answer with
    | .found o => { annotations := some o.metadata.annotations, happenings := asked }
    | .missing => { happenings := asked ++ [.noticed (.parentMissing (parentName p))] }
    | .failed => { happenings := asked ++ [.noticed (.parentUnavailable (parentName p))] }
    | .pending => { happenings := asked, isPending := true }
  | _, _ => {}

/-! ## The template -/

/-- The template of an object over that of its parent. The parent's is read first. -/
def templateOf (c : Config) (parent own : Annotations) :
    Except Template.Invalid (Option Template) := do
  let above ← Template.read .parent parent c.templateKey
  let below ← Template.read .object own c.templateKey
  return Template.merge above below

/-- A template that mentions guarding asks for it, unless it says otherwise in the end. -/
def asksForGuard (t : Option Template) : Bool :=
  t.any fun t ↦ Yaml.Mapping.contains t (.str "guarded")

/-- The endpoint of an object before its template is applied: the defaults and what the kind
prescribes. -/
def base (r : Rules κ) (c : Config) (obj : κ) (url : String) (guarded : Bool) : Endpoint :=
  r.prescribe c obj {
    name := (r.metadata obj).anyName
    url
    interval := c.defaultInterval.display
    guarded }

def endpointOf (r : Rules κ) (c : Config) (obj : κ) (url : String) (t : Option Template) :
    Endpoint :=
  (r.base c obj url (asksForGuard t)).applyTemplate (t.getD [])

/-! ## The verdict -/

def isTruthy (value : String) : Bool := value == "true" || value == "1"

/-- What the annotation that switches monitoring says; the object's own counts before the
parent's. -/
def switch? (c : Config) (parent own : Annotations) : Option String :=
  (own.lookup c.enabledKey).or (parent.lookup c.enabledKey)

/-- The verdict on an object that is in scope and has a URL. -/
def judgeWith (r : Rules κ) (c : Config) (obj : κ) (url : String) (parent : Annotations) :
    Verdict :=
  let own := (r.metadata obj).annotations
  if (switch? c parent own).all isTruthy then
    match templateOf c parent own with
    | .error why => .invalid why
    | .ok t => .endpoint (r.endpointOf c obj url t)
  else .drop

/-- The URL to judge an object by, or the verdict if it takes no more to tell. -/
def screen (r : Rules κ) (c : Config) (obj : κ) : Except Verdict String :=
  if r.shouldProcess c obj then
    match r.url? obj with
    | some url => .ok url
    | none => .error .noUrl
  else .error .drop

end Rules

/-! ## What it does to the store -/

def Key.object (k : Key) : ObjectName := ⟨k.name, k.namespaceName⟩

namespace Store

/-- Forgets an endpoint on behalf of its object. -/
def drop (s : Store) (key : Key) : Store :=
  let after := s.forget key
  if s.has key then after.note (.endpointRemoved key.object) else after

def apply (s : Store) (key : Key) (w : Write) : Verdict → Store
  | .drop => s.drop key
  | .noUrl => s.note (.noUrl key.object)
  | .invalid why => s.note (.invalidTemplate why key.object)
  | .endpoint e =>
    let after := s.put key e w
    if s.holds key e then after else after.note (.endpointUpdated key.object)

end Store

end EndpointSync
