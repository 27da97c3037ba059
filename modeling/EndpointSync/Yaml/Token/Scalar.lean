import EndpointSync.Yaml.Cursor
import EndpointSync.Yaml.Fault

/-!
# Scalars as tokens

Plain and quoted texts may run over several lines. What stands between two words is a `Gap`: blanks
on one line are kept, a single break reads as a space, and of several breaks all but the first are
kept. Block texts keep their lines, or fold them likewise, and end where the indentation ends.
-/

namespace EndpointSync.Yaml

/-- What stands between two words of a text. -/
structure Gap where
  /-- The blanks before any break. -/
  blanks : List Char := []
  /-- The first break. -/
  first : Option Char := none
  /-- The breaks after it. -/
  more : List Char := []
  /-- A break was seen, an escaped one included. -/
  broken : Bool := false

namespace Gap

/-- What the gap contributes to the text. -/
def text (g : Gap) : List Char :=
  if g.broken then
    match g.first with
    | some '\n' => if g.more.isEmpty then [' '] else g.more
    | some b => b :: g.more
    | none => g.more
  else g.blanks

/-- Reads blanks and breaks. After a break, a tab left of `indent` is an error. -/
def read (indent : Nat) : (fuel : Nat) → Gap → Cursor → Except Fault (Gap × Cursor)
  | 0, g, c => .ok (g, c)
  | fuel + 1, g, c =>
    match c.takeBreak? with
    | some (b, c) =>
      if g.broken then read indent fuel { g with more := g.more ++ [b] } c
      else read indent fuel { g with blanks := [], first := some b, broken := true } c
    | none =>
      match c.head? with
      | some ch =>
        if !isBlank ch then .ok (g, c)
        else if g.broken && c.column < indent && ch == '\t' then .error .tabIndent
        else if g.broken then read indent fuel g (c.skip 1)
        else read indent fuel { g with blanks := g.blanks ++ [ch] } (c.skip 1)
      | none => .ok (g, c)

end Gap

/-! ## Plain text -/

/-- The characters that delimit flow collections. -/
def isFlowIndicator (c : Char) : Bool :=
  c == ',' || c == '[' || c == ']' || c == '\x7b' || c == '\x7d'

/-- The leading word of a plain text: up to a blank, a break, a colon that ends a key, or inside a
flow collection an indicator of it. There a colon may not touch an indicator. -/
def plainWord (inFlow : Bool) : List Char → Except Fault (List Char)
  | [] => .ok []
  | c :: rest =>
    let next := rest.head?
    if isBreak c || isBlank c then .ok []
    else if inFlow && c == ':' && next.any fun n ↦ isFlowIndicator n || n == '?' then
      .error .strayCharacter
    else if c == ':' && isBlankOrEnd next then .ok []
    else if inFlow && isFlowIndicator c then .ok []
    else (plainWord inFlow rest).map (c :: ·)

/-- Reads a plain text. Outside flow collections it ends where a line starts left of `indent`. The
result tells whether a break follows the last word. -/
def readPlain (inFlow : Bool) (indent : Nat) :
    (fuel : Nat) → (acc : List Char) → Gap → Cursor → Except Fault (List Char × Bool × Cursor)
  | 0, acc, gap, c => .ok (acc, gap.broken, c)
  | fuel + 1, acc, gap, c => do
    if c.atDocumentMarker || c.isAt '#' then .ok (acc, gap.broken, c)
    else
      let word ← plainWord inFlow c.rest
      let c := c.skip word.length
      let acc := if word.isEmpty then acc else acc ++ gap.text ++ word
      let gap := if word.isEmpty then gap else {}
      if c.head?.any fun ch ↦ isBlank ch || isBreak ch then
        let (gap, c) ← gap.read indent (c.rest.length + 1) c
        if !inFlow && c.column < indent then .ok (acc, gap.broken, c)
        else readPlain inFlow indent fuel acc gap c
      else .ok (acc, gap.broken, c)

/-! ## Quoted text -/

def hexValue? (c : Char) : Option Nat :=
  if '0' ≤ c && c ≤ '9' then some (c.toNat - '0'.toNat)
  else if 'a' ≤ c && c ≤ 'f' then some (c.toNat - 'a'.toNat + 10)
  else if 'A' ≤ c && c ≤ 'F' then some (c.toNat - 'A'.toNat + 10)
  else none

def hexNumber? (cs : List Char) : Option Nat :=
  cs.foldlM (fun n c ↦ (hexValue? c).map (16 * n + ·)) 0

/-- What a one-letter escape stands for. -/
def escapeOf? : Char → Option Char
  | '0' => some '\x00'
  | 'a' => some '\x07'
  | 'b' => some '\x08'
  | 't' => some '\t'
  | '\t' => some '\t'
  | 'n' => some '\n'
  | 'v' => some '\x0b'
  | 'f' => some '\x0c'
  | 'r' => some '\r'
  | 'e' => some '\x1b'
  | ' ' => some ' '
  | '"' => some '"'
  | '/' => some '/'
  | '\\' => some '\\'
  | 'N' => some nextLine
  | '_' => some (Char.ofNat 0xA0)
  | 'L' => some lineSeparator
  | 'P' => some paragraphSeparator
  | _ => none

/-- The number of digits of a numeric escape. -/
def escapeWidth? : Char → Option Nat
  | 'x' => some 2
  | 'u' => some 4
  | 'U' => some 8
  | _ => none

/-- Reads an escape from behind its backslash; the second part is its length. -/
def readEscape (cs : List Char) : Except Fault (Char × Nat) :=
  match cs with
  | [] => .error .badEscape
  | e :: rest =>
    match escapeOf? e, escapeWidth? e with
    | some c, _ => .ok (c, 1)
    | none, some width =>
      if rest.length < width then .error .badEscape
      else match hexNumber? (rest.take width) with
        | some n =>
          if n.isValidChar then .ok (Char.ofNat n, width + 1) else .error .badEscape
        | none => .error .badEscape
    | none, none => .error .badEscape

/-- Reads the next characters of a quoted text up to a blank, a break, the closing quote or an
escaped break; the flag tells of the latter. -/
def quotedWord (single : Bool) :
    (fuel : Nat) → (acc : List Char) → Cursor → Except Fault (List Char × Bool × Cursor)
  | 0, acc, c => .ok (acc.reverse, false, c)
  | fuel + 1, acc, c =>
    match c.head? with
    | none => .ok (acc.reverse, false, c)
    | some ch =>
      if isBreak ch || isBlank ch then .ok (acc.reverse, false, c)
      else if single && ch == '\'' then
        if c.at? 1 == some '\'' then quotedWord single fuel ('\'' :: acc) (c.skip 2)
        else .ok (acc.reverse, false, c)
      else if !single && ch == '"' then .ok (acc.reverse, false, c)
      else if !single && ch == '\\' then
        match (c.skip 1).takeBreak? with
        | some (_, c) => .ok (acc.reverse, true, c)
        | none => do
          let (e, width) ← readEscape (c.skip 1).rest
          quotedWord single fuel (e :: acc) (c.skip (width + 1))
      else quotedWord single fuel (ch :: acc) (c.skip 1)

/-- Reads a quoted text from behind its opening quote, to behind the closing one. -/
def readQuoted (single : Bool) :
    (fuel : Nat) → (acc : List Char) → Cursor → Except Fault (List Char × Cursor)
  | 0, _, _ => .error .unclosedQuote
  | fuel + 1, acc, c => do
    if c.atDocumentMarker || c.rest.isEmpty then .error .unclosedQuote
    else
      let (word, escaped, c) ← quotedWord single (c.rest.length + 1) [] c
      let acc := acc ++ word
      if c.isAt (if single then '\'' else '"') then .ok (acc, c.skip 1)
      else
        let (gap, c) ← Gap.read 0 (c.rest.length + 1) { broken := escaped } c
        readQuoted single fuel (acc ++ gap.text) c

/-! ## Block text -/

/-- What happens to the breaks at the end of a block text. -/
inductive Chomp where
  | clip
  | strip
  | keep
deriving DecidableEq

/-- The indicators behind the first character of a block text: what happens at its end, and the
given indentation, zero if it is to be detected. -/
def readBlockHeader (c : Cursor) : Except Fault (Chomp × Nat × Cursor) := do
  let chompAt (c : Cursor) : Option Chomp :=
    if c.isAt '+' then some .keep else if c.isAt '-' then some .strip else none
  let digitAt (c : Cursor) : Except Fault (Option Nat) :=
    match c.head? with
    | some '0' => .error .badBlockHeader
    | some d => .ok (if d.isDigit then some (d.toNat - '0'.toNat) else none)
    | none => .ok none
  let (chomp, indent, c) ← match chompAt c with
    | some chomp => do
      match ← digitAt (c.skip 1) with
      | some d => pure (chomp, d, c.skip 2)
      | none => pure (chomp, 0, c.skip 1)
    | none => do
      match ← digitAt c with
      | some d =>
        match chompAt (c.skip 1) with
        | some chomp => pure (chomp, d, c.skip 2)
        | none => pure (Chomp.clip, d, c.skip 1)
      | none => pure (Chomp.clip, 0, c)
  let c := c.skipWhile isBlank
  let c := if c.isAt '#' then c.restOfLine.2 else c
  match c.takeBreak? with
  | some (_, c) => .ok (chomp, indent, c)
  | none => if c.rest.isEmpty then .ok (chomp, indent, c) else .error .badBlockHeader

/-- Reads indentation and empty lines. An `indent` of zero is not known yet; then `widest` collects
the deepest line. -/
def readBlockBreaks (indent : Nat) :
    (fuel : Nat) → (widest : Nat) → (breaks : List Char) → Cursor →
      Except Fault (Nat × List Char × Cursor)
  | 0, widest, breaks, c => .ok (widest, breaks, c)
  | fuel + 1, widest, breaks, c =>
    let spaces := (c.rest.takeWhile (· == ' ')).length
    let c := c.skip (if indent = 0 then spaces else min spaces (indent - c.column))
    let widest := max widest c.column
    if (indent = 0 || c.column < indent) && c.isAt '\t' then .error .tabIndent
    else match c.takeBreak? with
      | some (b, c) => readBlockBreaks indent fuel widest (breaks ++ [b]) c
      | none => .ok (widest, breaks, c)

/-- The lines of a block text so far. -/
structure BlockText where
  text : List Char := []
  /-- The break of the last line. -/
  last : Option Char := none
  /-- The breaks of the empty lines after it. -/
  empties : List Char := []
  /-- The last line starts with a blank. -/
  indented : Bool := false

/-- The text with the breaks before its next line; in a folded text one break between two lines
that do not start with a blank is a space, or nothing if empty lines follow it. -/
def BlockText.joined (b : BlockText) (literal nextIndented : Bool) : List Char :=
  let fold := !literal && b.last == some '\n' && !b.indented && !nextIndented
  let join := if fold then (if b.empties.isEmpty then [' '] else []) else b.last.toList
  b.text ++ join ++ b.empties

/-- Reads the lines of a block text at column `indent`. -/
def readBlockLines (literal : Bool) (indent : Nat) :
    (fuel : Nat) → BlockText → Cursor → Except Fault (BlockText × Cursor)
  | 0, b, c => .ok (b, c)
  | fuel + 1, b, c => do
    if c.column ≠ indent || c.rest.isEmpty then .ok (b, c)
    else
      let indented := c.head?.any isBlank
      let (line, c) := c.restOfLine
      let (last, c) := match c.takeBreak? with
        | some (br, c) => (some br, c)
        | none => (none, c)
      let text := b.joined literal indented ++ line
      let (_, empties, c) ← readBlockBreaks indent (c.rest.length + 1) 0 [] c
      readBlockLines literal indent fuel { text, last, empties, indented } c

/-- Reads a block text from behind its first indicator; `parent` is the least indentation that its
lines can have. -/
def readBlock (literal : Bool) (parent : Nat) (c : Cursor) : Except Fault (List Char × Cursor) := do
  let (chomp, increment, c) ← readBlockHeader c
  let given := if increment = 0 then 0 else (parent - 1) + increment
  let (widest, empties, c) ← readBlockBreaks given (c.rest.length + 1) 0 [] c
  let indent := if given = 0 then max widest (max parent 1) else given
  let (b, c) ← readBlockLines literal indent (c.rest.length + 1) { empties } c
  let final := match chomp with
    | .strip => b.text
    | .clip => b.text ++ b.last.toList
    | .keep => b.text ++ b.last.toList ++ b.empties
  .ok (final, c)

end EndpointSync.Yaml
