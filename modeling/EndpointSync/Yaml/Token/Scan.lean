import EndpointSync.Yaml.Token.Tag

/-!
# From text to tokens

Block structure follows the columns: a token left of the open collection closes it, one right of it
may open another. A key without an indicator is known as one only when its colon is met. So every
place where a key may start is kept as a candidate, one for each flow level, and the colon puts the
key token, and if need be the start of a block mapping, back to where the candidate began.

A candidate expires with its line and after `keySpan` characters. A candidate that stands exactly
at the column of the open block mapping cannot be anything but a key, so its expiry is an error.
-/

namespace EndpointSync.Yaml

/-- How far behind its start the colon of a key may stand. -/
def keySpan : Nat := 1024

/-- A place where a key may have started. -/
structure Candidate where
  /-- The number of tokens before it. -/
  position : Nat
  index : Nat
  line : Nat
  column : Nat
  /-- Nothing but a key can stand there. -/
  required : Bool

/-- The scanner between two tokens. -/
structure Scanner where
  cursor : Cursor
  tokens : Array Token := #[]
  /-- The columns of the open block collections, innermost first. -/
  columns : List Nat := []
  /-- A key may start here. -/
  keyAllowed : Bool := true
  /-- The candidate of the block level. -/
  blockCandidate : Option Candidate := none
  /-- The candidates of the open flow collections, innermost first. -/
  flowCandidates : List (Option Candidate) := []

namespace Scanner

/-- A flow collection is open. -/
def inFlow (s : Scanner) : Bool := !s.flowCandidates.isEmpty

/-- The least column of a block collection inside the open one. -/
def nextColumn (s : Scanner) : Nat :=
  match s.columns with
  | [] => 0
  | column :: _ => column + 1

/-- Adds a token at the end. -/
def emit (s : Scanner) (t : Token) : Scanner := { s with tokens := s.tokens.push t }

def emitAt (s : Scanner) (position : Nat) (t : Token) : Scanner :=
  { s with
    tokens := (s.tokens.extract 0 position).push t ++ s.tokens.extract position s.tokens.size }

/-! ## Candidates -/

/-- The candidate of the innermost level. -/
def candidate (s : Scanner) : Option Candidate :=
  match s.flowCandidates with
  | [] => s.blockCandidate
  | c :: _ => c

/-- Sets the candidate of the innermost level. -/
def setCandidate (s : Scanner) (c : Option Candidate) : Scanner :=
  match s.flowCandidates with
  | [] => { s with blockCandidate := c }
  | _ :: outer => { s with flowCandidates := c :: outer }

def dropCandidate (s : Scanner) : Except Fault Scanner :=
  if s.candidate.any (·.required) then .error .missingColon else .ok (s.setCandidate none)

/-- The candidate unless it has expired. -/
def unexpired (now : Cursor) : Option Candidate → Except Fault (Option Candidate)
  | none => .ok none
  | some k =>
    if k.line < now.line || k.index + keySpan < now.index then
      if k.required then .error .missingColon else .ok none
    else .ok (some k)

/-- Gives up the candidates that have expired. -/
def dropExpired (s : Scanner) : Except Fault Scanner := do
  let blockCandidate ← unexpired s.cursor s.blockCandidate
  let flowCandidates ← s.flowCandidates.mapM (unexpired s.cursor)
  .ok { s with blockCandidate, flowCandidates }

/-- Makes the cursor a candidate if a key may start there. -/
def saveCandidate (s : Scanner) : Except Fault Scanner := do
  if s.keyAllowed then
    let required := !s.inFlow && s.columns.head? == some s.cursor.column
    let s ← s.dropCandidate
    .ok <| s.setCandidate <| some
      { position := s.tokens.size, index := s.cursor.index, line := s.cursor.line,
        column := s.cursor.column, required }
  else .ok s

/-! ## Block structure -/

/-- Opens a block collection at `column` if that is right of the open one, with its start at
`position`. -/
def openBlock (s : Scanner) (column position : Nat) (start : Token) : Scanner :=
  if !s.inFlow && s.nextColumn ≤ column then
    { s with columns := column :: s.columns }.emitAt position start
  else s

/-- Closes the block collections right of the cursor's column, or all with `none`. -/
def closeBlocks (s : Scanner) (column : Option Nat) : Scanner :=
  if s.inFlow then s
  else
    let closes (open' : Nat) : Bool := column.all (· < open')
    let closed := s.columns.takeWhile closes
    { s with
      columns := s.columns.dropWhile closes
      tokens := s.tokens ++ (closed.map fun _ ↦ Token.blockEnd).toArray }

/-! ## Single tokens -/

def takeIndicator (s : Scanner) (width : Nat) (t : Token) : Scanner :=
  { s with cursor := s.cursor.skip width }.emit t

/-- Emits a directive or a document marker, which close every block collection. -/
def takeTopLevel (s : Scanner) (read : Cursor → Except Fault (Token × Cursor)) :
    Except Fault Scanner := do
  let s ← (s.closeBlocks none).dropCandidate
  let (t, cursor) ← read s.cursor
  .ok ({ s with cursor, keyAllowed := false }.emit t)

/-- Opens a flow collection. -/
def takeFlowStart (s : Scanner) (t : Token) : Except Fault Scanner := do
  let s ← s.saveCandidate
  .ok ({ s with
    flowCandidates := none :: s.flowCandidates, keyAllowed := true }.takeIndicator 1 t)

/-- Closes a flow collection; one too many is left to the structure to refuse. -/
def takeFlowEnd (s : Scanner) (t : Token) : Except Fault Scanner := do
  let s ← s.dropCandidate
  .ok ({ s with
    flowCandidates := s.flowCandidates.tail, keyAllowed := false }.takeIndicator 1 t)

def takeFlowEntry (s : Scanner) : Except Fault Scanner := do
  let s ← s.dropCandidate
  .ok ({ s with keyAllowed := true }.takeIndicator 1 .flowEntry)

/-- Emits a dash, which may open a block sequence. -/
def takeBlockEntry (s : Scanner) : Except Fault Scanner := do
  if !s.inFlow && !s.keyAllowed then .error .misplacedIndicator
  else
    let s := s.openBlock s.cursor.column s.tokens.size .blockSequenceStart
    let s ← s.dropCandidate
    .ok ({ s with keyAllowed := true }.takeIndicator 1 .blockEntry)

/-- Emits a question mark, which may open a block mapping. -/
def takeKey (s : Scanner) : Except Fault Scanner := do
  if !s.inFlow && !s.keyAllowed then .error .misplacedIndicator
  else
    let s := s.openBlock s.cursor.column s.tokens.size .blockMappingStart
    let s ← s.dropCandidate
    .ok ({ s with keyAllowed := !s.inFlow }.takeIndicator 1 .key)

/-- Emits a colon. With a candidate, that becomes a key. -/
def takeValue (s : Scanner) : Except Fault Scanner := do
  match s.candidate with
  | some k =>
    let s := (s.emitAt k.position .key).openBlock k.column k.position .blockMappingStart
    .ok ({ s.setCandidate none with keyAllowed := false }.takeIndicator 1 .value)
  | none =>
    if !s.inFlow && !s.keyAllowed then .error .misplacedIndicator
    else
      let s := s.openBlock s.cursor.column s.tokens.size .blockMappingStart
      .ok ({ s with keyAllowed := !s.inFlow }.takeIndicator 1 .value)

/-- Emits a token that may start a key. -/
def takeContent (s : Scanner) (read : Cursor → Except Fault (Token × Cursor)) :
    Except Fault Scanner := do
  let s ← s.saveCandidate
  let (t, cursor) ← read s.cursor
  .ok ({ s with cursor, keyAllowed := false }.emit t)

/-- Emits a plain text. After a break a key may start again. -/
def takePlain (s : Scanner) : Except Fault Scanner := do
  let s ← s.saveCandidate
  let (text, broken, cursor) ←
    readPlain s.inFlow s.nextColumn (s.cursor.rest.length + 1) [] {} s.cursor
  .ok ({ s with cursor, keyAllowed := broken }.emit (.scalar text true))

/-- Emits a block text, which is never a key. -/
def takeBlockText (s : Scanner) (literal : Bool) : Except Fault Scanner := do
  let s ← s.dropCandidate
  let (text, cursor) ← readBlock literal s.nextColumn (s.cursor.skip 1)
  .ok ({ s with cursor, keyAllowed := true }.emit (.scalar text false))

/-! ## The whole text -/

/-- Moves over white space, comments and breaks. A tab may not stand where a block key could. -/
def skipToToken (inFlow : Bool) : (fuel : Nat) → (keyAllowed : Bool) → Cursor → Bool × Cursor
  | 0, keyAllowed, c => (keyAllowed, c)
  | fuel + 1, keyAllowed, c =>
    let c := if c.index = 0 && c.isAt byteOrderMark then c.skip 1 else c
    let c := c.skipWhile fun ch ↦ ch == ' ' || ((inFlow || !keyAllowed) && ch == '\t')
    let c := if c.isAt '#' then c.restOfLine.2 else c
    match c.takeBreak? with
    | some (_, c) => skipToToken inFlow fuel (!inFlow || keyAllowed) c
    | none => (keyAllowed, c)

/-- The characters that cannot start a plain text wherever they stand. -/
def neverPlain : List Char :=
  [',', '[', ']', '\x7b', '\x7d', '#', '&', '*', '!', '|', '>', '\'', '"', '%', '@', '\x60']

/-- `ch`, with `next` behind it, starts a plain text. -/
def startsPlain (inFlow : Bool) (ch : Char) (next : Option Char) : Bool :=
  if isBreak ch || isBlank ch then false
  else if ch == '-' then !next.any isBlank
  else if ch == '?' || ch == ':' then !inFlow && !isBlankOrEnd next
  else !neverPlain.contains ch

/-- Emits the token at the cursor, which stands at `ch`. -/
def takeToken (s : Scanner) (ch : Char) : Except Fault Scanner :=
  let next := s.cursor.at? 1
  let apart := isBlankOrEnd next
  if s.cursor.column == 0 && ch == '%' then s.takeTopLevel fun c ↦ readDirective (c.skip 1)
  else if s.cursor.atMarker '-' then s.takeTopLevel fun c ↦ .ok (.documentStart, c.skip 3)
  else if s.cursor.atMarker '.' then s.takeTopLevel fun c ↦ .ok (.documentEnd, c.skip 3)
  else if ch == '[' then s.takeFlowStart .flowSequenceStart
  else if ch == '\x7b' then s.takeFlowStart .flowMappingStart
  else if ch == ']' then s.takeFlowEnd .flowSequenceEnd
  else if ch == '\x7d' then s.takeFlowEnd .flowMappingEnd
  else if ch == ',' then s.takeFlowEntry
  else if ch == '-' && apart then s.takeBlockEntry
  else if ch == '?' && (s.inFlow || apart) then s.takeKey
  else if ch == ':' && (s.inFlow || apart) then s.takeValue
  else if ch == '*' then s.takeContent fun c ↦ do
    let (name, c) ← readAnchorName (c.skip 1)
    .ok (.alias name, c)
  else if ch == '&' then s.takeContent fun c ↦ do
    let (name, c) ← readAnchorName (c.skip 1)
    .ok (.anchor name, c)
  else if ch == '!' then s.takeContent (readTag s.inFlow)
  else if ch == '|' && !s.inFlow then s.takeBlockText true
  else if ch == '>' && !s.inFlow then s.takeBlockText false
  else if ch == '\'' || ch == '"' then s.takeContent fun c ↦ do
    let (text, c) ← readQuoted (ch == '\'') (c.rest.length + 1) [] (c.skip 1)
    .ok (.scalar text false, c)
  else if startsPlain s.inFlow ch next then s.takePlain
  else .error .strayCharacter

/-- Emits tokens up to the end of the text. Every round consumes a character, so `fuel` bounds
them. -/
def run : (fuel : Nat) → Scanner → Except Fault (List Token)
  | 0, s => .ok s.tokens.toList
  | fuel + 1, s => do
    let (keyAllowed, cursor) :=
      skipToToken s.inFlow (s.cursor.rest.length + 1) s.keyAllowed s.cursor
    let s ← { s with cursor, keyAllowed }.dropExpired
    let s := s.closeBlocks (some cursor.column)
    match cursor.head? with
    | some ch => run fuel (← s.takeToken ch)
    | none => do
      let s ← (s.closeBlocks none).dropCandidate
      .ok s.tokens.toList

end Scanner

def Token.scan (s : String) : Except Fault (List Token) :=
  if s.toList.all isAllowed then Scanner.run (s.length + 1) { cursor := .ofText s }
  else .error .forbiddenCharacter

end EndpointSync.Yaml
