import EndpointSync.Disk
import EndpointSync.Roster
import EndpointSync.Text.Quoted

/-!
# Notices

What the program reports about its work. Each notice has a level, a message and some fields, and is
one line of text with the fields in order.
-/

namespace EndpointSync

/-- How important a notice is. -/
inductive Level where
  | debug | info | warn | error
deriving DecidableEq, Repr

def Level.name : Level → String
  | .debug => "DEBUG"
  | .info => "INFO"
  | .warn => "WARN"
  | .error => "ERROR"

/-- The name and namespace of an object, as notices give them. -/
structure ObjectName where
  name : String
  namespaceName : String
deriving DecidableEq, Repr, Inhabited

/-- An object that was looked up for its annotations. -/
structure ParentName where
  kind : String
  name : String
  /-- Unset for objects that belong to no namespace. -/
  namespaceName : Option String
deriving DecidableEq, Repr, Inhabited

inductive Notice where
  | endpointChanging (key : Key)
  | endpointForgotten (key : Key)
  | rosterWritten (count : Nat)
  | writeFailed (why : WriteFailure)
  | endpointUpdated (object : ObjectName)
  | endpointRemoved (object : ObjectName)
  | undecodable (kind : String) (object : ObjectName)
  | noUrl (object : ObjectName)
  | invalidTemplate (why : Template.Invalid) (object : ObjectName)
  | parentMissing (parent : ParentName)
  | parentUnavailable (parent : ParentName)
  | synced (count : Nat)
  | watching (version : String)
  | watchRefused
  | watchFailed
  | watchEnded (version : String)
  | versionExpired (message : String)
  | watchError (code : Nat) (message : String)
deriving DecidableEq, Repr

namespace Notice

/-- The message for an object that cannot be decoded. -/
def undecodableMessage (kind : String) : String := "failed to decode " ++ kind

def objectFields (o : ObjectName) : List (String × String) :=
  [("name", o.name), ("namespace", o.namespaceName)]

def optionalText : Option String → String
  | none => "None"
  | some s => "Some(" ++ Text.quoted s ++ ")"

def parentFields (p : ParentName) : List (String × String) :=
  [("kind", p.kind), ("name", p.name), ("namespace", optionalText p.namespaceName)]

/-- The level, the message and the fields of a notice. -/
def parts : Notice → Level × String × List (String × String)
  | .endpointChanging key => (.debug, "updating endpoint", [("key", key.display)])
  | .endpointForgotten key => (.debug, "removed endpoint", [("key", key.display)])
  | .rosterWritten n => (.info, "wrote endpoints", [("endpoints", toString n)])
  | .writeFailed why =>
    (.error, "failed to write endpoints", why.message?.toList.map fun m ↦ ("error", m))
  | .endpointUpdated o => (.info, "updated endpoint", objectFields o)
  | .endpointRemoved o => (.info, "removed endpoint", objectFields o)
  | .undecodable kind o =>
    (.warn, "skipping object", ("error", undecodableMessage kind) :: objectFields o)
  | .noUrl o => (.warn, "No URL; skipping", objectFields o)
  | .invalidTemplate why o =>
    (.error, "invalid template", ("error", why.message) :: objectFields o)
  | .parentMissing p => (.debug, "parent not found", parentFields p)
  | .parentUnavailable p => (.debug, "failed to fetch parent", parentFields p)
  | .synced n => (.info, "synced", [("objects", toString n)])
  | .watching version => (.info, "watching", [("version", version)])
  | .watchRefused => (.warn, "failed to start watch", [])
  | .watchFailed => (.warn, "watch failed", [])
  | .watchEnded version => (.debug, "watch ended", [("version", version)])
  | .versionExpired message => (.debug, "resource version expired", [("message", message)])
  | .watchError code message =>
    (.warn, "watch error", [("code", toString code), ("message", message)])

/-- A notice as a line, with the fields in order. -/
def line (n : Notice) : String :=
  let (level, message, fields) := n.parts
  let fields := (fields.map fun (k, v) ↦ k ++ "=" ++ v).mergeSort fun a b ↦ a ≤ b
  String.intercalate " " (level.name :: message :: fields)

end Notice

end EndpointSync
