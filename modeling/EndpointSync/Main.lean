import EndpointSync.CommandLine
import EndpointSync.LogFilter
import EndpointSync.Rules.OfKind
import EndpointSync.Sync

/-!
# The program

The program reads one event per line from its standard input: the kind of the object, what happened
to it, and the object itself. After every line the output file holds the endpoints as they stand.
Notices go to the standard error.
-/

namespace EndpointSync.Main

open Cluster (Change WatchEvent)

/-- How the program is called. -/
def usage : String := "Usage: gatus-sidecar [OPTIONS]"

/-- What is said to someone whose call was refused. -/
def refusalMessage : CommandLine.Refusal → String
  | .unknownArgument => "error: unexpected argument found"
  | .unwantedValue => "error: unexpected value for an argument found"
  | .repeatedFlag => "error: an argument cannot be used multiple times"
  | .badValue => "error: a value is required or not one of those possible"
  | .malformedValue => "error: invalid value for an argument"
  | .helpWanted => usage
  | .versionWanted => "gatus-sidecar 0.1.0"

def refusalStatus : CommandLine.Refusal → UInt32
  | .helpWanted => 0
  | .versionWanted => 0
  | _ => 2

/-- The event on a line. -/
def event? (line : String) : Option (Kind × Change) := do
  let j ← (Json.parse line).toOption
  let kind ← (← (← j.field? "kind").str?) |> Kind.ofName?
  match ← WatchEvent.ofJson? j with
  | .changed change => some (kind, change)
  | _ => none

/-- The store after an event of a kind that is followed. -/
def next (c : Config) (s : Store) (event : Kind × Change) : Store :=
  if event.1 ∈ c.kinds then
    let controller : Controller event.1.Form := { rules := event.1.rules, config := c }
    (controller.handle s event.2 .now).store
  else s

/-- The roster was written since the history began. -/
def wroteIn (history : List Happening) : Bool :=
  (Store.notices history).any fun
    | .rosterWritten _ => true
    | _ => false

/-- Says what happened, and brings the file up to date. -/
def publish (path : String) (s : Store) : IO Store := do
  for n in Store.notices s.history do
    IO.eprintln n.line
  if wroteIn s.history then
    let draft := path ++ ".tmp"
    IO.FS.writeFile draft (s.disk.contents.getD "")
    IO.FS.rename draft path
  return { s with history := [] }

/-- Follows the lines of the standard input to their end. -/
def follow (c : Config) : IO Unit := do
  let input ← IO.getStdin
  let mut store ← publish c.output ((default : Store).write)
  repeat
    let line ← input.getLine
    if line.isEmpty then break
    match event? line with
    | some event => store ← publish c.output (next c store event)
    | none => IO.eprintln "WARN unreadable event"

end EndpointSync.Main

open EndpointSync in
/-- Reads the command line and follows the events. -/
def main (args : List String) : IO UInt32 := do
  let env : CommandLine.Environment :=
    ⟨← IO.getEnv "GATUS_SIDECAR_NAMESPACE", ← IO.getEnv "GATUS_SIDECAR_LOG"⟩
  match CommandLine.parse env args with
  | .error refusal =>
    IO.eprintln (Main.refusalMessage refusal)
    return Main.refusalStatus refusal
  | .ok arguments =>
    if LogFilter.isValid arguments.logLevel then
      Main.follow arguments.config
      return 0
    else
      IO.eprintln LogFilter.invalidMessage
      return 1
