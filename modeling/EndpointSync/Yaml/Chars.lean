/-!
# Character classes of YAML

Line breaks are carriage return, line feed, next line, and the line and paragraph separators. The
end of the text behaves like a break in most lookaheads, hence the classes on `Option Char`.
-/

namespace EndpointSync.Yaml

def lineSeparator : Char := Char.ofNat 0x2028

def paragraphSeparator : Char := Char.ofNat 0x2029

def nextLine : Char := Char.ofNat 0x85

def byteOrderMark : Char := Char.ofNat 0xFEFF

/-- `c` ends a line. -/
def isBreak (c : Char) : Bool :=
  c == '\n' || c == '\r' || c == nextLine || c == lineSeparator || c == paragraphSeparator

/-- `c` separates words on a line. -/
def isBlank (c : Char) : Bool := c == ' ' || c == '\t'

/-- `c` may stand in an anchor, a directive name or a tag handle. -/
def isWord (c : Char) : Bool := c.isAlphanum || c == '-' || c == '_'

/-- The end of the text, a break or a blank. -/
def isBlankOrEnd (c : Option Char) : Bool := c.all fun c ↦ isBreak c || isBlank c

/-- `c` may stand in a text at all. -/
def isAllowed (c : Char) : Bool :=
  let n := c.toNat
  n == 0x09 || n == 0x0A || n == 0x0D || (0x20 ≤ n && n ≤ 0x7E) || n == 0x85 ||
    (0xA0 ≤ n && n ≤ 0xD7FF) || (0xE000 ≤ n && n ≤ 0xFFFD) || 0x10000 ≤ n

end EndpointSync.Yaml
