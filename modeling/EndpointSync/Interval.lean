import EndpointSync.Text.Blank
import EndpointSync.Text.Decimals
import EndpointSync.Text.Digits
import EndpointSync.Text.Quoted

/-!
# Intervals

The time between two checks, written as a number and a unit: `500ms`, `30s`, `1m`, `2h`. Blanks
around it do not count. An interval is shown in the largest unit that leaves it whole.
-/

namespace EndpointSync

/-- A length of time. -/
structure Interval where
  nanoseconds : Nat
deriving DecidableEq, Repr, Inhabited

/-- A text that is no interval. -/
structure InvalidInterval where
  text : String
deriving DecidableEq, Repr

/-- The message for a text that is no interval. -/
def InvalidInterval.message (e : InvalidInterval) : String :=
  "invalid interval " ++ Text.quoted e.text ++
    ": expected a number followed by one of ms, s, m or h"

namespace Interval

inductive Unit where
  | millisecond | second | minute | hour
deriving DecidableEq, Repr

/-- The nanoseconds of a second. -/
def perSecond : Nat := 1000000000

def Unit.length : Unit → Nat
  | .millisecond => 1000000
  | .second => perSecond
  | .minute => 60 * perSecond
  | .hour => 3600 * perSecond

def Unit.ofChars? : List Char → Option Unit
  | ['m', 's'] => some .millisecond
  | ['s'] => some .second
  | ['m'] => some .minute
  | ['h'] => some .hour
  | _ => none

/-- Numbers and whole seconds stay below this bound: they fit an unsigned 64-bit word. -/
def bound : Nat := 18446744073709551616

/-- An interval of so many units, if the number and its seconds stay below the bound. -/
def ofUnits? (n : Nat) (unit : Unit) : Option Interval :=
  if n < bound && n * unit.length < bound * perSecond then some ⟨n * unit.length⟩ else none

/-- The digits and the unit of a text that is made up of both, with nothing but blanks around them.
Digits of any script will do here. -/
def split? (cs : List Char) : Option (List Char × Unit) :=
  let cs := Text.trim cs
  match cs.takeWhile Text.isDecimal with
  | [] => none
  | digits => (Unit.ofChars? (cs.dropWhile Text.isDecimal)).map (digits, ·)

/-- The interval that the characters spell. Only the digits of ASCII make a number. -/
def ofChars? (cs : List Char) : Option Interval := do
  let (digits, unit) ← split? cs
  let n ← Text.natural? 10 digits
  ofUnits? n unit

def parse (text : String) : Except InvalidInterval Interval :=
  match ofChars? text.toList with
  | some i => .ok i
  | none => .error ⟨text⟩

def ofSeconds (n : Nat) : Interval := ⟨n * perSecond⟩

def seconds (i : Interval) : Nat := i.nanoseconds / perSecond

/-- What is left of an interval beyond its whole seconds. -/
def subsecond (i : Interval) : Nat := i.nanoseconds % perSecond

def milliseconds (i : Interval) : Nat := i.nanoseconds / Unit.millisecond.length

/-- An interval as text: in milliseconds if it is no whole number of seconds, else in the largest
unit of which it is a whole number. -/
def display (i : Interval) : String :=
  if i.subsecond ≠ 0 then toString i.milliseconds ++ "ms"
  else if i.seconds = 0 then "0s"
  else if i.seconds % 3600 = 0 then toString (i.seconds / 3600) ++ "h"
  else if i.seconds % 60 = 0 then toString (i.seconds / 60) ++ "m"
  else toString i.seconds ++ "s"

end Interval

end EndpointSync
