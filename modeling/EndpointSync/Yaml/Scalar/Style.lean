import EndpointSync.Yaml.Chars
import EndpointSync.Yaml.Scalar

/-!
# The styles of written scalars

A scalar is written in the plainest style that keeps its text: plain, between single quotes, or
between double quotes with escapes; a text of several lines asks for a literal block. Which styles
keep a text follows from a few traits of it.
-/

namespace EndpointSync.Yaml

namespace Scalar

inductive Style where
  | plain | singleQuoted | doubleQuoted | literal
deriving DecidableEq, Repr

/-- `c` is written as it is. Tabs and carriage returns are not. -/
def isShown (c : Char) : Bool :=
  let n := c.toNat
  n == 0x0A || (0x20 ≤ n && n ≤ 0x7E) || (0xA0 ≤ n && n ≤ 0xD7FF) ||
    (0xE000 ≤ n && n ≤ 0xFFFD && c != byteOrderMark) || 0x10000 ≤ n

/-- A blank, a break, or a zero character, which readers take for the end of the text. -/
def endsWord (c : Option Char) : Bool := isBlankOrEnd c || c == some '\x00'

/-- `c` starts a construct when it stands first in a scalar. -/
def isLeadingIndicator (c : Char) : Bool :=
  c ∈ ['#', ',', '[', ']', '\x7b', '\x7d', '&', '*', '!', '|', '>', '\'', '"', '%', '@', '\x60']

/-- The first character makes the scalar unfit for plain style in a block. -/
def startsConstruct : List Char → Bool
  | [] => false
  | c :: rest => isLeadingIndicator c || ((c ∈ ['?', ':', '-']) && endsWord rest.head?)

/-- Behind the first character, `: ` makes a key and ` #` a comment. `before` is the character
before the rest. -/
def holdsConstruct : (before : Char) → List Char → Bool
  | _, [] => false
  | before, c :: rest =>
    (c == ':' && endsWord rest.head?) || (c == '#' && endsWord (some before)) ||
      holdsConstruct c rest

/-- `cs` holds two neighbours that satisfy `p` and `q`. -/
def hasPair (p q : Char → Bool) : List Char → Bool
  | a :: b :: rest => (p a && q b) || hasPair p q (b :: rest)
  | _ => false

def startsMarker (cs : List Char) : Bool :=
  cs.take 3 == ['-', '-', '-'] || cs.take 3 == ['.', '.', '.']

/-- The text has an indicator that rules out plain style in a block. -/
def hasIndicator (cs : List Char) : Bool :=
  startsMarker cs || startsConstruct cs ||
    match cs with
    | [] => false
    | c :: rest => holdsConstruct c rest

def isMultiline (cs : List Char) : Bool := cs.any isBreak

/-- A space and then a break, or a character that has to be escaped. -/
def needsEscapes (cs : List Char) : Bool :=
  hasPair (· == ' ') isBreak cs || cs.any fun c ↦ !isShown c

/-- A break and then a space, which single quotes would fold away. -/
def hasBreakSpace (cs : List Char) : Bool := hasPair isBreak (· == ' ') cs

/-- A space or a break at either end. -/
def hasLooseEnd (cs : List Char) : Bool :=
  cs.head?.any (fun c ↦ c == ' ' || isBreak c) || cs.getLast?.any (fun c ↦ c == ' ' || isBreak c)

def allowsPlain (cs : List Char) : Bool :=
  !(hasLooseEnd cs || hasBreakSpace cs || needsEscapes cs || isMultiline cs || hasIndicator cs)

def allowsSingle (cs : List Char) : Bool := !(hasBreakSpace cs || needsEscapes cs)

def allowsLiteral (cs : List Char) : Bool :=
  !(cs.isEmpty || cs.getLast? == some ' ' || needsEscapes cs)

/-- The style in which a text is written, given the one that it asks for. A key on the line of its
value stays on one line. -/
def choose (wanted : Style) (simpleKey : Bool) (cs : List Char) : Style :=
  let quoted := if allowsSingle cs then .singleQuoted else .doubleQuoted
  if simpleKey && isMultiline cs then .doubleQuoted
  else match wanted with
    | .plain => if !allowsPlain cs || (cs.isEmpty && simpleKey) then quoted else .plain
    | .singleQuoted => quoted
    | .literal => if simpleKey || !allowsLiteral cs then .doubleQuoted else .literal
    | .doubleQuoted => .doubleQuoted

/-- The style that a string asks for. -/
def wantedStyle (cs : List Char) : Style :=
  if '\n' ∈ cs then .literal
  else if Tree.needsQuotes cs then .singleQuoted
  else .plain

end Scalar

end EndpointSync.Yaml
