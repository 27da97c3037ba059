import EndpointSync.Verdict

/-!
# Keeping the store in step with the cluster

A controller follows the objects of one kind. It lists them, puts what it finds into the store and
writes it once; then it watches for changes from the version of the list on. When a watch ends it is
opened again, after a delay, from the last version that was seen, or from the start if that version
has expired.

The cluster's answers are given as a list, one for each request for a list or a watch. When they are
used up no answer comes any more, and the controller waits until it is told to stop.

A controller can be told to stop whenever it waits: for a response, for the next event, for the end
of a delay, or for a parent while it goes through the first list. An event of a watch that it has
begun to deal with is dealt with to the end. Time passes only in the delays.
-/

namespace EndpointSync

open Cluster (Change Ending Feed ListResult Object Response Server WatchEnd WatchEvent)

/-- The store, and whether the controller is stuck waiting for an answer that never comes. -/
structure Progress where
  store : Store
  isStuck : Bool := false

/-- A controller: the rules for a kind, the configuration, and the cluster to look parents up in. -/
structure Controller (κ : Type) where
  rules : Rules κ
  config : Config
  server : Option Server := none

namespace Controller

variable {κ : Type}

/-! ## One change -/

def key (c : Controller κ) (o : Object) : Key := c.rules.keyOf o.metadata

/-- The key of an object that was read by the rules. -/
def keyOf (c : Controller κ) (obj : κ) : Key := c.rules.keyOf (c.rules.metadata obj)

/-- Deals with an object that was read by the rules. -/
def handleObject (c : Controller κ) (s : Store) (obj : κ) (w : Write) : Progress :=
  match c.rules.screen c.config obj with
  | .error verdict => { store := s.apply (c.keyOf obj) w verdict }
  | .ok url =>
    let inherited := c.rules.inherited c.server obj
    let s := s.record inherited.happenings
    if inherited.isPending then { store := s, isStuck := true }
    else
      let verdict := c.rules.judgeWith c.config obj url (inherited.annotations.getD [])
      { store := s.apply (c.keyOf obj) w verdict }

/-- Deals with an object that is there. One that does not read is passed over, and an endpoint that
it has stays. -/
def handlePresent (c : Controller κ) (s : Store) (o : Object) (w : Write) : Progress :=
  match c.rules.decode o with
  | some obj => c.handleObject s obj w
  | none => { store := s.note (.undecodable c.rules.resource.kind (c.key o).object) }

/-- Deals with a change. A deletion goes by the metadata alone, so it also works for an object that
does not read. -/
def handle (c : Controller κ) (s : Store) (change : Change) (w : Write) : Progress :=
  match change with
  | .added o => c.handlePresent s o w
  | .modified o => c.handlePresent s o w
  | .deleted o => { store := s.drop (c.key o) }

/-! ## Being told to stop -/

/-- A moment at which a controller waits. Its attempts are counted from zero, which is the first
list; the watches follow. -/
inductive Moment where
  /-- A list or a watch is about to be asked for. -/
  | asking (attempt : Nat)
  /-- The response to it is waited for. -/
  | answering (attempt : Nat)
  /-- The parent of an object of the first list is looked up. -/
  | lookup (index : Nat)
  /-- The next event of a watch is waited for, or its end. -/
  | event (attempt index : Nat)
  /-- The delay after a watch. -/
  | delay (attempt : Nat)
deriving DecidableEq, Repr

/-- How a run ended. -/
inductive Result where
  /-- The controller was told to stop. -/
  | told (m : Moment)
  /-- Nothing came any more. -/
  | silent
  /-- The answer about a parent never came. -/
  | stuck
  /-- The watch could not even be asked for, and never will be. -/
  | unaskable
  /-- The first list could not be had. -/
  | noList
deriving DecidableEq, Repr

/-! ## The first list -/

/-- The controller once nothing answers any more when it looks a parent up. -/
def unanswered (c : Controller κ) : Controller κ :=
  { c with server := c.server.map fun _ _ ↦ .pending }

/-- Puts objects into the store, one after the other. It goes no further where the answer about a
parent does not come, and nothing is done with that object. -/
def handleAll (c : Controller κ) (stop : Option Moment) (s : Store) :
    (index : Nat) → List Object → Store × Option Result
  | _, [] => (s, none)
  | n, o :: rest =>
    if stop = some (.lookup n) then
      let p := c.unanswered.handle s (.added o) .deferred
      if p.isStuck then (p.store, some (.told (.lookup n)))
      else c.handleAll stop p.store (n + 1) rest
    else
      let p := c.handle s (.added o) .deferred
      if p.isStuck then (p.store, some .stuck) else c.handleAll stop p.store (n + 1) rest

/-- Puts the first list into the store and writes it. -/
def seed (c : Controller κ) (stop : Option Moment) (s : Store) (objects : List Object) :
    Store × Option Result :=
  match c.handleAll stop s 0 objects with
  | (after, none) => (after.write.note (.synced objects.length), none)
  | (after, some result) => (after, some result)

/-! ## A watch -/

/-- The version that asks for a watch from the start. -/
def fromStart : String := "0"

/-- Where a watch has come to. -/
structure Watching where
  store : Store
  /-- The version to resume from. -/
  version : String

/-- What a controller does after a watch. -/
inductive Outcome where
  /-- It opens the watch again. -/
  | reopen
  | finish (r : Result)
deriving DecidableEq, Repr

/-- The version to resume from after an object was seen. -/
def resumeFrom (version : String) (o : Object) : String :=
  o.metadata.resourceVersion.getD version

/-- Deals with an event of a watch. An error ends the watch; the error for an expired version makes
the next watch start anew. -/
def observe (c : Controller κ) (here : Watching) : WatchEvent → Watching × Option Outcome
  | .bookmark version => ({ here with version }, none)
  | .error e =>
    if e.code = 410 then
      ({ store := here.store.note (.versionExpired e.message), version := fromStart }, some .reopen)
    else ({ here with store := here.store.note (.watchError e.code e.message) }, some .reopen)
  | .changed change =>
    let p := c.handle here.store change .now
    let after : Watching := ⟨p.store, resumeFrom here.version change.object⟩
    (after, if p.isStuck then some (.finish .stuck) else none)

def conclude (here : Watching) : WatchEnd → Watching × Outcome
  | .closed => ({ here with store := here.store.note (.watchEnded here.version) }, .reopen)
  | .failed => ({ here with store := here.store.note .watchFailed }, .reopen)
  | .silent => (here, .finish .silent)

/-- Follows the events of a watch, counted from `index` on, to its end. -/
def follow (c : Controller κ) (stop : Option Moment) (attempt : Nat) (ending : WatchEnd)
    (here : Watching) : (index : Nat) → List WatchEvent → Watching × Outcome
  | n, [] =>
    if stop = some (.event attempt n) then (here, .finish (.told (.event attempt n)))
    else conclude here ending
  | n, e :: rest =>
    if stop = some (.event attempt n) then (here, .finish (.told (.event attempt n)))
    else match c.observe here e with
      | (after, none) => c.follow stop attempt ending after (n + 1) rest
      | (after, some outcome) => (after, outcome)

/-- Follows what a response says to a watch. -/
def attend (c : Controller κ) (stop : Option Moment) (attempt : Nat) (here : Watching)
    (response : Response) : Watching × Outcome :=
  match response.watch? with
  | none => ({ here with store := here.store.note .watchRefused }, .reopen)
  | some feed => c.follow stop attempt feed.ending here 0 feed.events

/-! ## A run -/

/-- The answers of the cluster to requests for lists and watches, in order. -/
abbrev Script : Type := List Response

/-- A run from its start to its end. -/
structure Report where
  store : Store
  result : Result
  /-- The time that had passed when the last list or watch was asked for. -/
  milliseconds : Nat

/-- When an attempt is made. The delay comes after each watch. -/
def timeOf (c : Controller κ) (attempt : Nat) : Nat :=
  (attempt - 1) * c.config.reconnectDelay.milliseconds

/-- The request that asks something about the objects that the controller follows. -/
def request? (c : Controller κ) (ask : Ask) : Option Request :=
  ask.request? c.rules.resource c.config.namespaceName

/-- Notes that a list or a watch is asked for. -/
def poll (s : Store) (ask : Ask) (request : Request) (milliseconds : Nat) (initialized : Bool) :
    Store :=
  s.record [.polled {
    ask, request, milliseconds, initialized, file := s.disk.contents, count := s.roster.length }]

/-- The notices of watches that could not be asked for. -/
def refusals (count : Nat) : List Happening := List.replicate count (.noticed .watchRefused)

/-- Goes on where a watch cannot even be asked for. That is as good as refused. Since nothing is
left that could change the version, it is no better with the attempts that follow, until the
controller is told to stop. -/
def insist (c : Controller κ) (stop : Option Moment) (here : Watching) (attempt : Nat) : Report :=
  match stop with
  | some (.asking last) =>
    if attempt ≤ last then
      ⟨here.store.record (refusals (last - attempt)), .told (.asking last), c.timeOf last⟩
    else ⟨here.store.record (refusals 1), .unaskable, c.timeOf attempt⟩
  | some (.delay last) =>
    if attempt ≤ last then
      ⟨here.store.record (refusals (last + 1 - attempt)), .told (.delay last), c.timeOf last⟩
    else ⟨here.store.record (refusals 1), .unaskable, c.timeOf attempt⟩
  | _ => ⟨here.store.record (refusals 1), .unaskable, c.timeOf attempt⟩

/-- Asks for a watch and waits for the response. The run can end here: what is left is then its
report. -/
def ask (c : Controller κ) (stop : Option Moment) (n : Nat) (here : Watching) :
    Except Report Watching :=
  if stop = some (.asking n) then .error ⟨here.store, .told (.asking n), c.timeOf n⟩
  else match c.request? (.watch here.version) with
    | none => .error (c.insist stop here n)
    | some request =>
      let s := poll here.store (.watch here.version) request (c.timeOf n) true
      if stop = some (.answering n) then .error ⟨s, .told (.answering n), c.timeOf n⟩
      else .ok { here with store := s }

/-- Watches until the controller is told to stop, or until nothing more can happen. -/
def watch (c : Controller κ) (stop : Option Moment) :
    (script : Script) → (attempt : Nat) → Watching → Report
  | [], n, here =>
    match c.ask stop n here with
    | .error report => report
    | .ok here => ⟨here.store, .silent, c.timeOf n⟩
  | response :: script, n, here =>
    match c.ask stop n here with
    | .error report => report
    | .ok here =>
      match c.attend stop n here response with
      | (after, .finish result) => ⟨after.store, result, c.timeOf n⟩
      | (after, .reopen) =>
        if stop = some (.delay n) then ⟨after.store, .told (.delay n), c.timeOf n⟩
        else c.watch stop script (n + 1) after

/-- A run that ends before the first list is in the store. The handle goes with it. -/
def endEarly (s : Store) (result : Result) : Report := ⟨s.record [.released], result, 0⟩

/-- Runs a controller until it is told to stop. The handle is released when the first list has been
written. -/
def run (c : Controller κ) (s : Store) (script : Script) (stop : Option Moment) : Report :=
  if stop = some (.asking 0) then endEarly s (.told (.asking 0))
  else match c.request? .list with
    | none => endEarly s .noList
    | some request =>
      let s := poll s .list request 0 false
      if stop = some (.answering 0) then endEarly s (.told (.answering 0))
      else match (script.head?.getD .pending).list with
        | .failed => endEarly s .noList
        | .pending => endEarly s .silent
        | .listed l =>
          match c.seed stop s l.objects with
          | (after, some result) => endEarly after result
          | (after, none) =>
            let s := (after.record [.released]).note (.watching l.version)
            c.watch stop script.tail 1 ⟨s, l.version⟩

/-! ## A run against the clock -/

/-- The moment at which a controller is told to stop by a clock. Since time passes only in the
delays, it is in the first of them that reaches that time. -/
def Moment.atTime? (delay milliseconds : Nat) : Option Moment :=
  if delay = 0 then if milliseconds = 0 then some (.delay 1) else none
  else some (.delay (max 1 ((milliseconds + delay - 1) / delay)))

/-- Runs a controller until a time at which it is told to stop, or else until nothing more can
happen. Its report says when it ended. -/
def runUntil (c : Controller κ) (s : Store) (script : Script) (stopAt : Option Nat) : Report :=
  let stop := stopAt.bind (Moment.atTime? c.config.reconnectDelay.milliseconds)
  let report := c.run s script stop
  if report.result = .noList then report
  else { report with milliseconds := stopAt.getD report.milliseconds }

/-- The message for a list that could not be had. -/
def noListMessage (plural : String) : String := "failed to list " ++ plural

end Controller

end EndpointSync
