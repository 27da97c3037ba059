import EndpointSync.Text.Blank
import EndpointSync.Text.Digits

/-!
# Timestamps

A date, a `T` or a blank, a time of day and an offset from universal time. The form is a relaxed
one: numbers may be shorter than usual, blanks may stand before a number or a separator, and the
offset may be written without its colon. The date must exist, and a minute may have a leap second.

Only whether a text is a timestamp matters here.
-/

namespace EndpointSync.Timestamp

/-- What is left of a text after a part of it was read. -/
abbrev Rest : Type := List Char

/-- The text without blanks at its start. -/
def skipBlanks (cs : Rest) : Rest := cs.dropWhile Text.isBlank

/-- A number of one to `width` digits. -/
def number? (width : Nat) (cs : Rest) : Option (Nat × Rest) :=
  let digits := (cs.takeWhile Char.isDigit).take width
  (Text.natural? 10 digits).map fun n ↦ (n, cs.drop digits.length)

/-- A number, behind any blanks, that is at most `bound`. -/
def field? (bound : Nat) (cs : Rest) : Option (Nat × Rest) :=
  (number? 2 (skipBlanks cs)).filter (·.1 ≤ bound)

def separator? (c : Char) (cs : Rest) : Option Rest :=
  match skipBlanks cs with
  | d :: rest => if d = c then some rest else none
  | [] => none

/-- The years that can be represented lie within this distance of zero. -/
def yearBound : Nat := 262142

/-- A year: up to four digits, or a sign and any number of digits. -/
def year? (cs : Rest) : Option (Int × Rest) :=
  let cs := skipBlanks cs
  let found : Option (Int × Rest) := match cs with
    | '-' :: rest => (number? rest.length rest).map fun (n, r) ↦ (-(n : Int), r)
    | '+' :: rest => (number? rest.length rest).map fun (n, r) ↦ ((n : Int), r)
    | _ => (number? 4 cs).map fun (n, r) ↦ ((n : Int), r)
  found.filter fun (n, _) ↦ n.natAbs ≤ yearBound

/-- The year has a leap day. -/
def isLeap (year : Int) : Bool := (year % 4 = 0 && year % 100 ≠ 0) || year % 400 = 0

def daysOf (year : Int) (month : Nat) : Nat :=
  if month = 2 then if isLeap year then 29 else 28
  else if month ∈ [4, 6, 9, 11] then 30
  else 31

/-- A date that exists. -/
def date? (cs : Rest) : Option Rest := do
  let (year, cs) ← year? cs
  let (month, cs) ← field? 12 (← separator? '-' cs)
  let (day, cs) ← field? 31 (← separator? '-' cs)
  if 1 ≤ month && 1 ≤ day && day ≤ daysOf year month then some cs else none

/-- A time of day, with or without a fraction of a second. -/
def time? (cs : Rest) : Option Rest := do
  let (_, cs) ← field? 23 cs
  let (_, cs) ← field? 59 (← separator? ':' cs)
  let (_, cs) ← field? 60 (← separator? ':' cs)
  match cs with
  | '.' :: rest =>
    let digits := rest.takeWhile Char.isDigit
    if digits.isEmpty then none else some (rest.drop digits.length)
  | _ => some cs

/-- The minus sign of mathematics. -/
def minusSign : Char := Char.ofNat 0x2212

/-- An offset of less than a day: hours and minutes of two digits each. -/
def offset? : Rest → Option Rest
  | sign :: h :: h' :: rest => do
    if !(sign == '+' || sign == '-' || sign == minusSign) then none
    let hours ← Text.natural? 10 [h, h']
    match rest.dropWhile fun c ↦ c == ':' || Text.isBlank c with
    | m :: m' :: rest =>
      let minutes ← Text.natural? 10 [m, m']
      if hours ≤ 23 && minutes ≤ 59 then some rest else none
    | _ => none
  | _ => none

def zone? (cs : Rest) : Option Rest :=
  match cs with
  | 'Z' :: rest => some rest
  | 'z' :: rest => some rest
  | _ =>
    if (cs.take 3).map Char.toUpper = ['U', 'T', 'C'] then some (cs.drop 3) else offset? cs

def isValid (text : String) : Bool :=
  let found : Option Rest := do
    match ← date? text.toList with
    | c :: rest => if c ∈ ['T', 't', ' '] then zone? (skipBlanks (← time? rest)) else none
    | [] => none
  found.any fun rest ↦ (skipBlanks rest).isEmpty

end EndpointSync.Timestamp
