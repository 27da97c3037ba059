import EndpointSync.Text.Digits

/-!
# Addresses to listen on

An address is four decimal octets and a port, or eight groups of hexadecimal digits in brackets and
a port. One run of zero groups may be left out, and the last two groups may be written as octets. An
address is shown with the longest such run left out.
-/

namespace EndpointSync

inductive SocketAddress where
  | v4 (octets : List Nat) (port : Nat)
  /-- The scope is zero if there is none. -/
  | v6 (groups : List Nat) (scope port : Nat)
deriving DecidableEq, Repr, Inhabited

namespace SocketAddress

/-! ## Reading -/

/-- The digits at the start of a text, of which there are at most `most`, as a number below a
bound. -/
def number? (base : Nat) (most : Option Nat) (bound : Nat) (cs : List Char) :
    Option (Nat × List Char) := do
  let digits := cs.takeWhile fun c ↦ (Text.digitOf? base c).isSome
  if most.any (· < digits.length) then none
  let n ← Text.natural? base digits
  if n < bound then some (n, cs.drop digits.length) else none

def char? (c : Char) : List Char → Option (List Char)
  | d :: rest => if d = c then some rest else none
  | [] => none

/-- An octet, without leading zeros. -/
def octet? (cs : List Char) : Option (Nat × List Char) := do
  let (n, rest) ← number? 10 (some 3) 256 cs
  if cs.head? = some '0' && cs.length - rest.length ≠ 1 then none else some (n, rest)

/-- Four octets with points between them. -/
def octets? (cs : List Char) : Option (List Nat × List Char) := do
  let (a, cs) ← octet? cs
  let (b, cs) ← octet? (← char? '.' cs)
  let (c, cs) ← octet? (← char? '.' cs)
  let (d, cs) ← octet? (← char? '.' cs)
  some ([a, b, c, d], cs)

def port? (cs : List Char) : Option (Nat × List Char) := do number? 10 none 65536 (← char? ':' cs)

/-- A part that has a colon before it unless it is the first. -/
def separated? {α : Type} (first : Bool) (part : List Char → Option (α × List Char))
    (cs : List Char) : Option (α × List Char) :=
  if first then part cs else (char? ':' cs).bind part

/-- As many groups as there are, up to `limit`, and whether the last two are written as octets. -/
def groups (first : Bool) : (limit : Nat) → List Char → List Nat × Bool × List Char
  | 0, cs => ([], false, cs)
  | limit + 1, cs =>
    match if limit = 0 then none else separated? first octets? cs with
    | some ([a, b, c, d], rest) => ([a * 256 + b, c * 256 + d], true, rest)
    | _ =>
      match separated? first (number? 16 (some 4) 65536) cs with
      | some (g, rest) =>
        let (gs, mixed, rest) := groups false limit rest
        (g :: gs, mixed, rest)
      | none => ([], false, cs)

def eightGroups? (cs : List Char) : Option (List Nat × List Char) := do
  let (front, mixed, cs) := groups true 8 cs
  if front.length = 8 then some (front, cs)
  else if mixed then none
  else
    let cs ← char? ':' (← char? ':' cs)
    let (back, _, cs) := groups true (7 - front.length) cs
    some (front ++ List.replicate (8 - front.length - back.length) 0 ++ back, cs)

/-- The scope behind a percent sign, a number of 32 bits. -/
def scope (cs : List Char) : Nat × List Char :=
  (((char? '%' cs).bind (number? 10 none 4294967296)).getD (0, cs))

/-- Reads an address that is all of a text. -/
def ofChars? (cs : List Char) : Option SocketAddress :=
  let short : Option SocketAddress := do
    let (octets, cs) ← octets? cs
    let (port, rest) ← port? cs
    if rest.isEmpty then some (.v4 octets port) else none
  let long : Option SocketAddress := do
    let (groups, cs) ← eightGroups? (← char? '[' cs)
    let (scope, cs) := scope cs
    let (port, rest) ← port? (← char? ']' cs)
    if rest.isEmpty then some (.v6 groups scope port) else none
  short.or long

def ofString? (text : String) : Option SocketAddress := ofChars? text.toList

/-! ## Writing -/

def octetsText (octets : List Nat) : String := ".".intercalate (octets.map toString)

def groupsText (groups : List Nat) : String :=
  ":".intercalate (groups.map fun g ↦ String.ofList (Nat.toDigits 16 g))

/-- The length of the run of zeros at the start. -/
def zeroRun (groups : List Nat) : Nat := (groups.takeWhile (· = 0)).length

/-- The first of the longest runs of zeros: where it starts and how long it is. -/
def longestRun (groups : List Nat) : Nat × Nat :=
  (List.range groups.length).foldl (fun best i ↦
    let here := zeroRun (groups.drop i)
    if best.2 < here then (i, here) else best) (0, 0)

/-- The groups of an address as text. -/
def hostText (groups : List Nat) : String :=
  match groups with
  | [0, 0, 0, 0, 0, 0xFFFF, a, b] =>
    "::ffff:" ++ octetsText [a / 256, a % 256, b / 256, b % 256]
  | _ =>
    let (start, length) := longestRun groups
    if 1 < length then
      groupsText (groups.take start) ++ "::" ++ groupsText (groups.drop (start + length))
    else groupsText groups

def display : SocketAddress → String
  | .v4 octets port => octetsText octets ++ ":" ++ toString port
  | .v6 groups scope port =>
    let scope := if scope = 0 then "" else "%" ++ toString scope
    "[" ++ hostText groups ++ scope ++ "]:" ++ toString port

end SocketAddress

end EndpointSync
