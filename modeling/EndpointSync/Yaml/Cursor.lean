import EndpointSync.Yaml.Chars

/-!
# A position in a YAML text

The cursor carries the text that is left and where it starts. Columns decide the block structure
and the index bounds the length of a key, so both are counted in characters.
-/

namespace EndpointSync.Yaml

/-- The rest of a text and its position. -/
structure Cursor where
  rest : List Char
  index : Nat
  line : Nat
  column : Nat

namespace Cursor

def ofText (s : String) : Cursor := ⟨s.toList, 0, 0, 0⟩

def head? (c : Cursor) : Option Char := c.rest.head?

/-- The character `i` places on. -/
def at? (c : Cursor) (i : Nat) : Option Char := c.rest[i]?

/-- `ch` is next. -/
def isAt (c : Cursor) (ch : Char) : Bool := c.head? == some ch

/-- Moves over `n` characters of the same line. -/
def skip (c : Cursor) (n : Nat) : Cursor :=
  ⟨c.rest.drop n, c.index + n, c.line, c.column + n⟩

/-- The characters of this line that satisfy `p`, and the cursor after them. Breaks never do. -/
def span (c : Cursor) (p : Char → Bool) : List Char × Cursor :=
  let taken := c.rest.takeWhile fun ch ↦ p ch && !isBreak ch
  (taken, c.skip taken.length)

/-- Moves over the characters of this line that satisfy `p`. -/
def skipWhile (c : Cursor) (p : Char → Bool) : Cursor := (c.span p).2

/-- The rest of the line, and the cursor before its break. -/
def restOfLine (c : Cursor) : List Char × Cursor := c.span fun _ ↦ true

/-- Moves over a break, if one is next. It reads as a line feed, except that the line and paragraph
separators read as themselves; carriage return and line feed together are one break. -/
def takeBreak? (c : Cursor) : Option (Char × Cursor) :=
  match c.rest with
  | '\r' :: '\n' :: rest => some ('\n', ⟨rest, c.index + 2, c.line + 1, 0⟩)
  | ch :: rest =>
    if isBreak ch then
      let read := if ch == lineSeparator || ch == paragraphSeparator then ch else '\n'
      some (read, ⟨rest, c.index + 1, c.line + 1, 0⟩)
    else none
  | [] => none

/-- Three times `ch` at the start of a line, followed by a blank or the end of the line. -/
def atMarker (c : Cursor) (ch : Char) : Bool :=
  c.column == 0 && c.rest.take 3 == [ch, ch, ch] && isBlankOrEnd (c.at? 3)

/-- A document marker is next. -/
def atDocumentMarker (c : Cursor) : Bool := c.atMarker '-' || c.atMarker '.'

end Cursor

end EndpointSync.Yaml
