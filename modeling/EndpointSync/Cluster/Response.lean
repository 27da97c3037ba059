import EndpointSync.Cluster.Object
import EndpointSync.Cluster.Request
import EndpointSync.Json.Read

/-!
# Responses of the cluster

A response may come, may be refused, or may never come; and a body that has started may break off or
never end. What a body says is decided by what was asked for: one object, a list of objects, or a
watch, whose lines are events.
-/

namespace EndpointSync.Cluster

inductive Ending where
  | complete | broken | stalled
deriving DecidableEq, Repr

inductive Response where
  /-- The connection fails. -/
  | refused
  /-- No response ever comes. -/
  | pending
  | reply (status : Nat) (body : String) (ending : Ending)
deriving DecidableEq, Repr

/-- What the cluster answers to requests for single objects. -/
abbrev Server : Type := Request → Response

/-! ## Reports of errors -/

/-- An error as the cluster reports it. -/
structure ErrorReport where
  code : Nat
  message : String
  reason : String
deriving DecidableEq, Repr

namespace ErrorReport

/-- A text that may be missing, but not null. -/
def textOr? : Option Json → Option String
  | none => some ""
  | some j => j.str?

def ofFields? (status message reason code : Option Json) : Option ErrorReport := do
  let _ ← status.bind Json.str?
  let message ← textOr? message
  let reason ← textOr? reason
  match code with
  | some (.int n) => if 0 ≤ n && n < 65536 then some ⟨n.toNat, message, reason⟩ else none
  | _ => none

/-- Reads a report, written as an object or as the list of its fields in order. -/
def ofJson? : Json → Option ErrorReport
  | .arr [status, message, reason, code] => ofFields? status message reason code
  | .obj fields =>
    let value := Json.fieldOf? fields
    ofFields? (value "status") (value "message") (value "reason") (value "code")
  | _ => none

end ErrorReport

def wholeJson? (text : String) : Option Json := (Json.parse text).toOption

def isErrorStatus (status : Nat) : Bool := 400 ≤ status && status < 600

/-! ## One object -/

/-- What came of asking for an object. -/
inductive Lookup where
  | found (o : Object)
  | missing
  | failed
  /-- There will be no answer. -/
  | pending
deriving Inhabited

/-- What a response says about the object that was asked for. -/
def Response.lookup : Response → Lookup
  | .refused => .failed
  | .pending => .pending
  | .reply _ _ .stalled => .pending
  | .reply _ _ .broken => .failed
  | .reply status body .complete =>
    if isErrorStatus status then
      if ((wholeJson? body).bind ErrorReport.ofJson?).any (·.reason == "NotFound") then .missing
      else .failed
    else match (wholeJson? body).bind Object.ofJson? with
      | some o => .found o
      | none => .failed

/-! ## A list -/

/-- A list of objects and the version that it is of. -/
structure Listing where
  objects : List Object
  version : String
deriving Inhabited

namespace Listing

/-- The shape of the metadata of a list. -/
def metadataShape : Shape := .record (
  Shape.texts ["continue", "selfLink", "resourceVersion"] ++ [("remainingItemCount", .int64)])

/-- The version of a list, which has none if nothing says so. -/
def versionOf? : Option Json → Option String
  | none => some ""
  | some m =>
    if metadataShape.fits m then some ((Metadata.textOf? m "resourceVersion").getD "") else none

/-- Reads a list. It must say what its items are, if only by null. -/
def ofJson? : Json → Option Listing
  | .obj fields => do
    let version ← versionOf? (Json.fieldOf? fields "metadata")
    match ← Json.fieldOf? fields "items" with
    | .null => some ⟨[], version⟩
    | .arr items => some ⟨← items.mapM Object.ofJson?, version⟩
    | _ => none
  | _ => none

end Listing

/-- What came of asking for a list. -/
inductive ListResult where
  | listed (l : Listing)
  | failed
  /-- There will be no answer. -/
  | pending
deriving Inhabited

/-- What a response says about the list that was asked for. -/
def Response.list : Response → ListResult
  | .refused => .failed
  | .pending => .pending
  | .reply _ _ .stalled => .pending
  | .reply _ _ .broken => .failed
  | .reply status body .complete =>
    if isErrorStatus status then .failed
    else match (wholeJson? body).bind Listing.ofJson? with
      | some l => .listed l
      | none => .failed

/-! ## A watch -/

/-- What happened to an object. -/
inductive Change where
  | added (o : Object)
  | modified (o : Object)
  | deleted (o : Object)
deriving Inhabited

def Change.object : Change → Object
  | .added o => o
  | .modified o => o
  | .deleted o => o

inductive WatchEvent where
  | changed (c : Change)
  /-- Nothing changed up to this version. -/
  | bookmark (version : String)
  | error (report : ErrorReport)
deriving Inhabited

namespace WatchEvent

def bookmarkVersion? (j : Json) : Option String := do
  let _ ← (← j.field? "apiVersion").str?
  let _ ← (← j.field? "kind").str?
  let (version, annotations) ← match ← j.field? "metadata" with
    | .obj fields =>
      some (Json.fieldOf? fields "resourceVersion", Json.fieldOf? fields "annotations")
    | .arr [v] => some (some v, none)
    | .arr [v, a] => some (some v, some a)
    | _ => none
  if annotations.all fun a ↦ (Shape.mapOf .text).fits a then version.bind Json.str? else none

/-- An event of a type, about what it is about. -/
def ofParts? (type : String) (about : Json) : Option WatchEvent :=
  match type with
  | "ADDED" => (Object.ofJson? about).map fun o ↦ .changed (.added o)
  | "MODIFIED" => (Object.ofJson? about).map fun o ↦ .changed (.modified o)
  | "DELETED" => (Object.ofJson? about).map fun o ↦ .changed (.deleted o)
  | "BOOKMARK" => (bookmarkVersion? about).map .bookmark
  | "ERROR" => (ErrorReport.ofJson? about).map .error
  | _ => none

/-- The only value under a name. -/
def onlyField? (fields : List (String × Json)) (name : String) : Option Json :=
  match fields.filter (·.1 == name) with
  | [f] => some f.2
  | _ => none

/-- Reads an event, written as an object or as the list of its two parts. -/
def ofJson? : Json → Option WatchEvent
  | .arr [.str type, about] => ofParts? type about
  | .obj fields => do
    match ← onlyField? fields "type" with
    | .str type => ofParts? type (← onlyField? fields "object")
    | _ => none
  | _ => none

end WatchEvent

inductive WatchEnd where
  /-- The cluster closed it. -/
  | closed
  | failed
  /-- It stays open, and nothing more comes. -/
  | silent
deriving DecidableEq, Repr

/-- The events of a watch, and how it ends after them. -/
structure Feed where
  events : List WatchEvent
  ending : WatchEnd

namespace Feed

/-- The lines of a body, and what is left behind the last line feed. -/
def lines : List Char → List (List Char) × List Char
  | [] => ([], [])
  | '\n' :: rest =>
    let (ls, last) := lines rest
    ([] :: ls, last)
  | c :: rest =>
    match lines rest with
    | ([], last) => ([], c :: last)
    | (l :: ls, last) => ((c :: l) :: ls, last)

/-- A line without the carriage return at its end. -/
def chomp (line : List Char) : List Char :=
  if line.getLast? = some '\r' then line.dropLast else line

/-- The events of some lines up to the first that does not read, and how the watch ends, if it would
otherwise end so. A line that is the start of a value is passed over, and so is a blank one. -/
def ofLines (ending : WatchEnd) : List (List Char) → Feed
  | [] => ⟨[], ending⟩
  | line :: rest =>
    match Json.parse (String.ofList (chomp line)) with
    | .error .incomplete => ofLines ending rest
    | .error .malformed => ⟨[], .failed⟩
    | .ok j =>
      match WatchEvent.ofJson? j with
      | none => ⟨[], .failed⟩
      | some e =>
        let after := ofLines ending rest
        ⟨e :: after.events, after.ending⟩

/-- The feed of a body. A line that has no end counts only if the body is complete. -/
def ofBody (body : String) (ending : Ending) : Feed :=
  let (ls, last) := lines body.toList
  match ending with
  | .complete => ofLines .closed (if last.isEmpty then ls else ls ++ [last])
  | .broken => ofLines .failed ls
  | .stalled => ofLines .silent ls

end Feed

/-- What a response says to a watch: nothing if it is refused. The status does not count. -/
def Response.watch? : Response → Option Feed
  | .refused => none
  | .pending => some ⟨[], .silent⟩
  | .reply _ body ending => some (.ofBody body ending)

end EndpointSync.Cluster
