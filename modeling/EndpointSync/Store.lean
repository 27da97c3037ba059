import EndpointSync.Cluster.Request
import EndpointSync.Notice

/-!
# The store

The roster together with the file that it is written to, and the history of what happened so far.
All controllers share one store. A change is written at once, or left to a later write while the
store is first filled; a removal is always written at once. A write that fails loses nothing: the
roster keeps the change, and the next write that succeeds holds it.
-/

namespace EndpointSync

/-- Where things stood when a list or a watch was asked for. -/
structure Poll where
  ask : Ask
  request : Request
  milliseconds : Nat
  /-- The controller has released its handle. -/
  initialized : Bool
  file : Option String
  count : Nat
deriving DecidableEq, Repr

/-- Something that happened, as seen from outside. -/
inductive Happening where
  | noticed (n : Notice)
  /-- An object was asked for. -/
  | requested (r : Request)
  /-- A list or a watch was asked for. -/
  | polled (p : Poll)
  /-- A controller released the handle that says that it has yet to start. -/
  | released
deriving DecidableEq, Repr

/-- Whether a change is written at once. -/
inductive Write where
  | now | deferred
deriving DecidableEq, Repr

/-- The shared state. -/
structure Store where
  roster : Roster := []
  disk : Disk := {}
  /-- What happened, oldest first. -/
  history : List Happening := []
deriving Inhabited

namespace Store

def record (s : Store) (h : List Happening) : Store := { s with history := s.history ++ h }

def note (s : Store) (n : Notice) : Store := s.record [.noticed n]

/-- The disk after writing the roster. -/
def written (s : Store) : Except WriteFailure Disk :=
  match s.roster.render? with
  | none => .error .unrenderable
  | some text => s.disk.replace text

/-- Writes the roster, whether or not anything changed. -/
def write (s : Store) : Store :=
  match s.written with
  | .ok disk => { s with disk }.note (.rosterWritten s.roster.length)
  | .error why => s.note (.writeFailed why)

/-- The endpoint under a key is already this one. -/
def holds (s : Store) (key : Key) (e : Endpoint) : Bool :=
  (s.roster.get? key).any fun old ↦ old.same e

/-- Records the endpoint under a key, unless it is there already. -/
def put (s : Store) (key : Key) (e : Endpoint) (w : Write) : Store :=
  if s.holds key e then s
  else
    let s := { s.note (.endpointChanging key) with roster := s.roster.insert key e }
    match w with
    | .now => s.write
    | .deferred => s

def has (s : Store) (key : Key) : Bool := (s.roster.get? key).isSome

/-- Forgets the endpoint under a key, if there is one. -/
def forget (s : Store) (key : Key) : Store :=
  if s.has key then
    ({ s with roster := s.roster.erase key }.note (.endpointForgotten key)).write
  else s

def notices (history : List Happening) : List Notice :=
  history.filterMap fun
    | .noticed n => some n
    | _ => none

end Store

end EndpointSync
