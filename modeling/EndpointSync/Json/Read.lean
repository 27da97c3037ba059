import EndpointSync.Json

/-!
# Reading JSON

The reader tells two ways of failing apart. A text that is a proper beginning of some JSON text is
`incomplete`; any other text that is not JSON is `malformed`. A watch skips an incomplete line and
gives up on a malformed one, so the difference shows.

Containers nest at most `maxDepth` deep. That bound is what the recursion runs on: a value at depth
`d + 1` hands its container loop the reader for depth `d`, and the loop runs on the number of
characters left.
-/

namespace EndpointSync.Json

/-- Why a text is not a JSON value. -/
inductive Flaw where
  | incomplete
  | malformed
deriving DecidableEq, Repr

/-- Something read and the text after it. -/
abbrev Read (α : Type) : Type := α × List Char

/-- How deep containers may nest. -/
def maxDepth : Nat := 127

/-- JSON's white space. -/
def isSpace (c : Char) : Bool := c == ' ' || c == '\n' || c == '\t' || c == '\r'

/-- The text after leading white space. -/
def skipSpace (cs : List Char) : List Char := cs.dropWhile isSpace

/-! ## Scalars -/

def expectWord (word : List Char) (value : Json) (cs : List Char) : Except Flaw (Read Json) :=
  match word, cs with
  | [], rest => .ok (value, rest)
  | _ :: _, [] => .error .incomplete
  | w :: word, c :: rest => if w == c then expectWord word value rest else .error .malformed

def hexValue? (c : Char) : Option Nat :=
  if '0' ≤ c && c ≤ '9' then some (c.toNat - '0'.toNat)
  else if 'a' ≤ c && c ≤ 'f' then some (c.toNat - 'a'.toNat + 10)
  else if 'A' ≤ c && c ≤ 'F' then some (c.toNat - 'A'.toNat + 10)
  else none

/-- Reads `count` hexadecimal digits onto `acc`. -/
def readHex : (count : Nat) → (acc : Nat) → List Char → Except Flaw (Read Nat)
  | 0, acc, rest => .ok (acc, rest)
  | _ + 1, _, [] => .error .incomplete
  | count + 1, acc, c :: rest =>
    match hexValue? c with
    | some d => readHex count (16 * acc + d) rest
    | none => .error .malformed

/-- Reads an escaped character, from behind its `\u`. A code unit of the upper half of a pair takes
the lower half with it; alone, either half is malformed. -/
def readUnit (cs : List Char) : Except Flaw (Read Char) := do
  let (n, rest) ← readHex 4 0 cs
  if 0xDC00 ≤ n && n ≤ 0xDFFF then .error .malformed
  else if 0xD800 ≤ n && n ≤ 0xDBFF then
    match rest with
    | [] => .error .incomplete
    | ['\\'] => .error .incomplete
    | '\\' :: 'u' :: rest =>
      let (low, rest) ← readHex 4 0 rest
      if 0xDC00 ≤ low && low ≤ 0xDFFF then
        .ok (Char.ofNat (0x10000 + (n - 0xD800) * 0x400 + (low - 0xDC00)), rest)
      else .error .malformed
    | _ => .error .malformed
  else .ok (Char.ofNat n, rest)

def escapeOf? : Char → Option Char
  | '"' => some '"'
  | '\\' => some '\\'
  | '/' => some '/'
  | 'b' => some '\x08'
  | 'f' => some '\x0c'
  | 'n' => some '\n'
  | 'r' => some '\r'
  | 't' => some '\t'
  | _ => none

/-- Reads a string from behind its opening quote; `acc` holds the characters so far, last first. -/
def readString : (fuel : Nat) → (acc : List Char) → List Char → Except Flaw (Read String)
  | 0, _, _ => .error .incomplete
  | _ + 1, _, [] => .error .incomplete
  | fuel + 1, acc, c :: rest =>
    if c == '"' then .ok (String.ofList acc.reverse, rest)
    else if c == '\\' then
      match rest with
      | [] => .error .incomplete
      | 'u' :: rest => do
        let (c, rest) ← readUnit rest
        readString fuel (c :: acc) rest
      | e :: rest =>
        match escapeOf? e with
        | some c => readString fuel (c :: acc) rest
        | none => .error .malformed
    else if c.toNat < 0x20 then .error .malformed
    else readString fuel (c :: acc) rest

/-- The number that a run of digits stands for. -/
def digitsValue (ds : List Char) : Nat :=
  ds.foldl (fun n d ↦ 10 * n + (d.toNat - '0'.toNat)) 0

def readDigits (cs : List Char) : Except Flaw (Read (List Char)) :=
  match cs.takeWhile Char.isDigit with
  | [] => .error (if cs.isEmpty then .incomplete else .malformed)
  | ds => .ok (ds, cs.dropWhile Char.isDigit)

/-- Reads the integer part of a number, which has no needless leading zero. -/
def readWhole (cs : List Char) : Except Flaw (Read (List Char)) :=
  match cs with
  | '0' :: rest =>
    if (rest.head?.map Char.isDigit).getD false then .error .malformed else .ok (['0'], rest)
  | _ => readDigits cs

/-- Reads an optional fraction, digits only. -/
def readFraction (cs : List Char) : Except Flaw (Read (Option (List Char))) :=
  match cs with
  | '.' :: rest => (readDigits rest).map fun (ds, rest) ↦ (some ds, rest)
  | _ => .ok (none, cs)

def readExponent (cs : List Char) : Except Flaw (Read (Option Int)) :=
  let unsigned (sign : Int) (cs : List Char) : Except Flaw (Read (Option Int)) :=
    (readDigits cs).map fun (ds, rest) ↦ (some (sign * digitsValue ds), rest)
  let signed (cs : List Char) : Except Flaw (Read (Option Int)) :=
    match cs with
    | '+' :: rest => unsigned 1 rest
    | '-' :: rest => unsigned (-1) rest
    | _ => unsigned 1 cs
  match cs with
  | 'e' :: rest => signed rest
  | 'E' :: rest => signed rest
  | _ => .ok (none, cs)

/-- Unsigned integers of 64 bits are below this bound, signed ones below half of it. -/
def wordBound : Nat := 18446744073709551616

/-- The number with the given parts. An integer that fits neither 64-bit range is a double, and so
is minus zero; a double out of range is malformed. -/
def numberOf (negative : Bool) (whole : List Char) (fraction : Option (List Char))
    (exponent : Option Int) : Except Flaw Json :=
  let n := digitsValue whole
  let double (digits : Nat) (e : Int) : Except Flaw Json :=
    match Binary64.ofDecimal negative digits e with
    | .inf _ => .error .malformed
    | x => .ok (.real x)
  match fraction, exponent with
  | none, none =>
    if negative then
      if n ≠ 0 && n ≤ wordBound / 2 then .ok (.int (-n)) else double n 0
    else if n < wordBound then .ok (.int n)
    else double n 0
  | fraction, exponent =>
    let places := fraction.getD []
    double (digitsValue (whole ++ places)) (exponent.getD 0 - places.length)

def readNumber (cs : List Char) : Except Flaw (Read Json) := do
  let (negative, cs) := match cs with
    | '-' :: rest => (true, rest)
    | _ => (false, cs)
  let (whole, cs) ← readWhole cs
  let (fraction, cs) ← readFraction cs
  let (exponent, cs) ← readExponent cs
  let n ← numberOf negative whole fraction exponent
  .ok (n, cs)

/-! ## Containers -/

/-- Reads the items of a list from behind its bracket or a comma. -/
def readItems (value : List Char → Except Flaw (Read Json)) :
    (fuel : Nat) → (acc : List Json) → List Char → Except Flaw (Read Json)
  | 0, _, _ => .error .incomplete
  | fuel + 1, acc, cs => do
    let (item, rest) ← value cs
    match skipSpace rest with
    | [] => .error .incomplete
    | ',' :: rest => readItems value fuel (item :: acc) rest
    | ']' :: rest => .ok (.arr (item :: acc).reverse, rest)
    | _ => .error .malformed

/-- Reads the fields of an object from behind its brace or a comma. -/
def readFields (value : List Char → Except Flaw (Read Json)) :
    (fuel : Nat) → (acc : List (String × Json)) → List Char → Except Flaw (Read Json)
  | 0, _, _ => .error .incomplete
  | fuel + 1, acc, cs => do
    match skipSpace cs with
    | [] => .error .incomplete
    | '"' :: rest =>
      let (name, rest) ← readString (rest.length + 1) [] rest
      match skipSpace rest with
      | [] => .error .incomplete
      | ':' :: rest =>
        let (item, rest) ← value rest
        match skipSpace rest with
        | [] => .error .incomplete
        | ',' :: rest => readFields value fuel ((name, item) :: acc) rest
        | '\x7d' :: rest => .ok (.obj ((name, item) :: acc).reverse, rest)
        | _ => .error .malformed
      | _ => .error .malformed
    | _ => .error .malformed

/-- Reads a value whose containers nest at most `depth` deep. -/
def readValue : (depth : Nat) → List Char → Except Flaw (Read Json)
  | depth, cs =>
    match skipSpace cs with
    | [] => .error .incomplete
    | 'n' :: rest => expectWord ['u', 'l', 'l'] .null rest
    | 't' :: rest => expectWord ['r', 'u', 'e'] (.bool true) rest
    | 'f' :: rest => expectWord ['a', 'l', 's', 'e'] (.bool false) rest
    | '"' :: rest => (readString (rest.length + 1) [] rest).map fun (s, rest) ↦ (.str s, rest)
    | '[' :: rest =>
      match depth with
      | 0 => .error .malformed
      | depth + 1 =>
        match skipSpace rest with
        | [] => .error .incomplete
        | ']' :: rest => .ok (.arr [], rest)
        | rest => readItems (readValue depth) (rest.length + 1) [] rest
    | '\x7b' :: rest =>
      match depth with
      | 0 => .error .malformed
      | depth + 1 =>
        match skipSpace rest with
        | [] => .error .incomplete
        | '\x7d' :: rest => .ok (.obj [], rest)
        | rest => readFields (readValue depth) (rest.length + 1) [] rest
    | c :: rest =>
      if c == '-' || c.isDigit then readNumber (c :: rest) else .error .malformed

def parse (s : String) : Except Flaw Json := do
  let (value, rest) ← readValue maxDepth s.toList
  if (skipSpace rest).isEmpty then .ok value else .error .malformed

end EndpointSync.Json
