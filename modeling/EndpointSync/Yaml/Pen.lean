/-!
# The pen that writes YAML

Whether a blank or a new line is due depends on what was written last, so the pen remembers it: the
column, whether something that separates words stands right before it, and whether the line holds
only indentation and indicators so far. A block collection can then start on the line of the dash
that it is an item of.
-/

namespace EndpointSync.Yaml

/-- A text in the making. -/
structure Pen where
  /-- What is written, last character first. -/
  reversed : List Char := []
  column : Nat := 0
  /-- No blank is needed before the next word. -/
  spaced : Bool := true
  /-- The line holds only indentation and indicators. -/
  indented : Bool := true

namespace Pen

def text (p : Pen) : String := String.ofList p.reversed.reverse

/-- Writes one character of a line. -/
def put (p : Pen) (c : Char) : Pen :=
  { p with reversed := c :: p.reversed, column := p.column + 1 }

def putAll (p : Pen) (cs : List Char) : Pen := cs.foldl put p

def endLine (p : Pen) (c : Char) : Pen := { p with reversed := c :: p.reversed, column := 0 }

/-- Writes a blank where one is needed. -/
def space (p : Pen) : Pen := if p.spaced then p else p.put ' '

/-- The pen after a word. -/
def afterWord (p : Pen) : Pen := { p with spaced := false, indented := false }

/-- Moves to a column at the start of a line: the next line, unless this one is still free. -/
def indent (p : Pen) (column : Nat) : Pen :=
  let free := p.indented && (p.column < column || (p.column == column && p.spaced))
  let p := if free then p else p.endLine '\n'
  let p := p.putAll (List.replicate (column - p.column) ' ')
  { p with spaced := true, indented := true }

/-- Writes an indicator that keeps the line free for a block collection. -/
def dash (p : Pen) (c : Char) : Pen := { p.space.put c with spaced := false }

/-- Writes an indicator that opens something on its line. -/
def openWith (p : Pen) (cs : List Char) : Pen :=
  { p.space.putAll cs with spaced := false, indented := false }

/-- Writes an indicator right behind what is there. -/
def closeWith (p : Pen) (cs : List Char) : Pen :=
  { p.putAll cs with spaced := false, indented := false }

end Pen

end EndpointSync.Yaml
