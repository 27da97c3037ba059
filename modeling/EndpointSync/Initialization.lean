/-!
# Waiting for the first lists

Every controller gets a handle and releases it once its first list is in the store. Whoever waits
does so for as many releases as handles were issued by then. The count never asks which handles were
released; that each is released at most once is what makes it enough.

The handles are counted in a word of 32 bits, which starts from zero again after the last number.
-/

namespace EndpointSync

/-- A number that stands for a handle. -/
inductive Handle where
  | held
  | released
  /-- Asked for after the wait had begun, and never issued. -/
  | void
deriving DecidableEq, Repr

/-- The handles, in the order in which they were asked for, and the wait. Only the numbers are
known to whoever waits. -/
structure Initialization where
  handles : List Handle := []
  /-- How many handles were issued, as far as it was counted. -/
  issued : UInt32 := 0
  /-- How many handles were released. -/
  releases : Nat := 0
  /-- How many releases are waited for, once someone waits. -/
  awaited : Option UInt32 := none
deriving DecidableEq, Repr, Inhabited

namespace Initialization

/-- Asks for a handle. -/
def add (i : Initialization) : Initialization :=
  if i.awaited.isSome then { i with handles := i.handles ++ [.void] }
  else { i with handles := i.handles ++ [.held], issued := i.issued + 1 }

/-- Releases a handle. A handle that is not held stays as it is. -/
def release (i : Initialization) (number : Nat) : Initialization :=
  if i.handles[number]? = some .held then
    { i with handles := i.handles.set number .released, releases := i.releases + 1 }
  else i

/-- Starts to wait. A wait that has begun goes on. -/
def wait (i : Initialization) : Initialization := { i with awaited := i.awaited.or (some i.issued) }

/-- Where the wait has come to. -/
inductive Status where
  | idle | pending | ready
deriving DecidableEq, Repr

def Status.name : Status → String
  | .idle => "idle"
  | .pending => "pending"
  | .ready => "ready"

/-- The wait is over once there are as many releases as it is for. -/
def status (i : Initialization) : Status :=
  match i.awaited with
  | none => .idle
  | some n => if n.toNat ≤ i.releases then .ready else .pending

end Initialization

end EndpointSync
