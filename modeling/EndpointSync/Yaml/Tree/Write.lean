import EndpointSync.Yaml.Number
import EndpointSync.Yaml.Pen
import EndpointSync.Yaml.Scalar.Style

/-!
# Writing values

Collections are written in block style, two columns a level; a sequence in a mapping starts at the
column of its key. Empty collections are written as brackets. Lines are never folded.

A key that is one line and not too long stands before its colon; any other key, a collection
included, is announced by a question mark and has its colon on a line of its own.
-/

namespace EndpointSync.Yaml

/-- The columns of one level. -/
def levelWidth : Nat := 2

/-- The most octets that a key before its colon may have, its tag included. -/
def maxSimpleKey : Nat := 128

/-! ## Scalars -/

namespace Pen

/-- The escape of a character between double quotes. -/
def escape (c : Char) : List Char :=
  let hex (width : Nat) : List Char :=
    let ds := (Nat.toDigits 16 c.toNat).map Char.toUpper
    List.replicate (width - ds.length) '0' ++ ds
  if c == '\x00' then ['0']
  else if c == '\x07' then ['a']
  else if c == '\x08' then ['b']
  else if c == '\t' then ['t']
  else if c == '\n' then ['n']
  else if c == '\x0b' then ['v']
  else if c == '\x0c' then ['f']
  else if c == '\r' then ['r']
  else if c == '\x1b' then ['e']
  else if c == '"' || c == '\\' then [c]
  else if c == nextLine then ['N']
  else if c == lineSeparator then ['L']
  else if c == paragraphSeparator then ['P']
  else if c.toNat ≤ 0xFF then 'x' :: hex 2
  else if c.toNat ≤ 0xFFFF then 'u' :: hex 4
  else 'U' :: hex 8

def doubleQuoted (p : Pen) (cs : List Char) : Pen :=
  let body := cs.flatMap fun c ↦
    if !Scalar.isShown c || isBreak c || c == '"' || c == '\\' then '\\' :: escape c else [c]
  ((p.openWith ['"']).putAll body).closeWith ['"']

/-- Writes a text between single quotes, from behind the first. A break is doubled where it would
read as a blank, and the next line is indented; `broken` tells that a break was last. -/
def singleQuotedBody (column : Nat) : (broken : Bool) → Pen → List Char → Pen
  | broken, p, [] => if broken then p.indent column else p
  | broken, p, c :: cs =>
    if isBreak c then
      let p := if !broken && c == '\n' then p.endLine '\n' else p
      singleQuotedBody column true { p.endLine c with indented := true } cs
    else if c == ' ' then singleQuotedBody column broken (p.put c) cs
    else
      let p := if broken then p.indent column else p
      let p := if c == '\'' then p.put '\'' else p
      singleQuotedBody column false { p.put c with indented := false } cs

def singleQuoted (p : Pen) (column : Nat) (cs : List Char) : Pen :=
  (singleQuotedBody column false (p.openWith ['\'']) cs).closeWith ['\'']

/-- Writes the lines of a literal block. -/
def literalBody (column : Nat) : (broken : Bool) → Pen → List Char → Pen
  | _, p, [] => p
  | broken, p, c :: cs =>
    if isBreak c then literalBody column true { p.endLine c with indented := true } cs
    else
      let p := if broken then p.indent column else p
      literalBody column false { p.put c with indented := false } cs

/-- What a literal block says of itself: its indentation, if the text starts with a blank, and what
to do with the breaks at its end. -/
def literalHints (cs : List Char) : List Char :=
  let width := if cs.head?.any fun c ↦ c == ' ' || isBreak c then decimalDigits levelWidth else []
  let chomp := match cs.reverse with
    | [] => ['-']
    | last :: before =>
      if !isBreak last then ['-']
      else if before.head?.all isBreak then ['+']
      else []
  width ++ chomp

def literal (p : Pen) (column : Nat) (cs : List Char) : Pen :=
  let p := (p.openWith ['|']).putAll (literalHints cs)
  literalBody column true { p.endLine '\n' with spaced := true, indented := true } cs

/-- Writes a scalar in a style; `column` is where further lines of it start. -/
def scalar (p : Pen) (style : Scalar.Style) (column : Nat) (cs : List Char) : Pen :=
  match style with
  | .plain => ((if cs.isEmpty then p else p.space).putAll cs).afterWord
  | .singleQuoted => p.singleQuoted column cs
  | .doubleQuoted => p.doubleQuoted cs
  | .literal => p.literal column cs

/-! ## Tags -/

/-- The text of a tag: its name, with an exclamation mark before it unless it has one. -/
def tagText (name : String) : List Char :=
  if name.startsWith "!" then name.toList else '!' :: name.toList

/-- A character may stand in a tag as it is. -/
def isTagChar (c : Char) : Bool :=
  c.isAlphanum || c ∈ "-_;/?:@&=+$,.~*'()[]".toList

/-- The octets of a character, each as two digits behind a percent sign. -/
def percentEncoded (c : Char) : List Char :=
  (String.singleton c).toUTF8.toList.flatMap fun b ↦
    let ds := (Nat.toDigits 16 b.toNat).map Char.toUpper
    '%' :: (List.replicate (2 - ds.length) '0' ++ ds)

/-- The characters of a tag as they are written. -/
def tagChars (cs : List Char) : List Char :=
  cs.flatMap fun c ↦ if isTagChar c then [c] else percentEncoded c

/-- Writes a tag. The mark alone is no handle, and is written out in full. -/
def tag (p : Pen) (name : String) : Pen :=
  match tagText name with
  | ['!'] => ((p.openWith ['!', '<']).putAll (percentEncoded '!')).closeWith ['>']
  | text => (p.space.putAll ('!' :: tagChars (text.drop 1))).afterWord

end Pen

/-! ## Values -/

namespace Tree

/-- The text of a scalar and the style that it asks for. -/
def scalar? : Tree → Option (List Char × Scalar.Style)
  | .null => some (['n', 'u', 'l', 'l'], .plain)
  | .bool true => some (['t', 'r', 'u', 'e'], .plain)
  | .bool false => some (['f', 'a', 'l', 's', 'e'], .plain)
  | .int n => some (integerText n, .plain)
  | .float x => some (floatText x, .plain)
  | .str s => some (s.toList, Scalar.wantedStyle s.toList)
  | _ => none

def octetCount (cs : List Char) : Nat := (String.ofList cs).utf8ByteSize

/-- A key that can stand before its colon. `tagSize` is the number of octets of its tag. -/
def isSimpleKey (tagSize : Nat) : Tree → Bool
  | .seq items => items.isEmpty && tagSize ≤ maxSimpleKey
  | .map entries => entries.isEmpty && tagSize ≤ maxSimpleKey
  | .tagged name v => isSimpleKey (octetCount (Pen.tagText name)) v
  | v => v.scalar?.all fun (cs, _) ↦
      !Scalar.isMultiline cs && tagSize + octetCount cs ≤ maxSimpleKey

/-- Where a node is written. -/
structure Place where
  /-- The column of the collection that the node belongs to; the root belongs to none. -/
  column : Option Nat := none
  /-- The node is a key or a value. -/
  inMapping : Bool := false
  /-- The node is a key before its colon. -/
  simpleKey : Bool := false

def Place.nested (place : Place) (root : Nat) : Nat :=
  match place.column with
  | none => root
  | some n => n + levelWidth

/-- The column of the items of a sequence. -/
def Place.itemColumn (place : Place) (p : Pen) : Nat :=
  match place.column with
  | some n => if place.inMapping && !p.indented then n else n + levelWidth
  | none => 0

mutual
/-- Writes a value. -/
def write (place : Place) (p : Pen) : Tree → Pen
  | .tagged name v => write place (p.tag name) v
  | .seq [] => (p.openWith ['[']).closeWith [']']
  | .map [] => (p.openWith ['\x7b']).closeWith ['\x7d']
  | .seq items => writeItems (place.itemColumn p) p items
  | .map entries => writeEntries (place.nested 0) p entries
  | .null => writeScalar place p .null
  | .bool b => writeScalar place p (.bool b)
  | .int n => writeScalar place p (.int n)
  | .float x => writeScalar place p (.float x)
  | .str s => writeScalar place p (.str s)

def writeItems (column : Nat) (p : Pen) : List Tree → Pen
  | [] => p
  | v :: rest =>
    writeItems column (write { column := some column } ((p.indent column).dash '-') v) rest

def writeEntries (column : Nat) (p : Pen) : List (Tree × Tree) → Pen
  | [] => p
  | (k, v) :: rest =>
    let p := p.indent column
    let within : Place := { column := some column, inMapping := true }
    let p :=
      if isSimpleKey 0 k then (write { within with simpleKey := true } p k).closeWith [':']
      else ((write within (p.dash '?') k).indent column).dash ':'
    writeEntries column (write within p v) rest

def writeScalar (place : Place) (p : Pen) (v : Tree) : Pen :=
  match v.scalar? with
  | some (cs, wanted) =>
    p.scalar (Scalar.choose wanted place.simpleKey cs) (place.nested levelWidth) cs
  | none => p
end

def text (v : Tree) : String := ((v.write {} {}).indent 0).text

/-! ## What cannot be written

A mapping with one entry is how a tagged value looks from outside. Such a mapping cannot be written
if its key looks so too, unless a tag of its own makes clear what it is.
-/

/-- The value looks like a tag and what it stands on. -/
def looksTagged : Tree → Bool
  | .tagged .. => true
  | .map [_] => true
  | _ => false

/-- One entry whose key looks tagged. -/
def ambiguous : Mapping → Bool
  | [(k, _)] => looksTagged k
  | _ => false

mutual
/-- The value can be written; `under` tells that it stands under a tag. -/
def isWritable (under : Bool) : Tree → Bool
  | .tagged _ v => isWritable true v
  | .seq items => allWritable items
  | .map entries => (under || !ambiguous entries) && entriesWritable entries
  | _ => true

def allWritable : List Tree → Bool
  | [] => true
  | v :: rest => isWritable false v && allWritable rest

def entriesWritable : List (Tree × Tree) → Bool
  | [] => true
  | (k, v) :: rest => isWritable false k && isWritable false v && entriesWritable rest
end

/-- The text of a value, if it can be written. -/
def render? (v : Tree) : Option String :=
  if v.isWritable false then some v.text else none

end Tree

end EndpointSync.Yaml
