import EndpointSync.Yaml.Token
import EndpointSync.Yaml.Token.Scalar

/-!
# Anchors, tags and directives as tokens

A tag is a handle and a suffix; the handle stands for an expansion that a directive may change. The
suffix is made of octets because a percent escape names an octet and not a character.
-/

namespace EndpointSync.Yaml

/-- Reads the name of an anchor or an alias from behind its indicator. -/
def readAnchorName (c : Cursor) : Except Fault (List Char × Cursor) :=
  let (name, c) := c.span isWord
  let ends := isBlankOrEnd c.head? ||
    c.head?.any fun ch ↦ ['?', ':', ',', ']', '\x7d', '%', '@', '\x60'].contains ch
  if name.isEmpty || !ends then .error .badAnchor else .ok (name, c)

/-! ## Tags -/

/-- The punctuation of a tag. -/
def tagPunctuation : List Char :=
  [';', '/', '?', ':', '@', '&', '=', '+', '$', '.', '!', '~', '*', '\'', '(', ')']

/-- `c` may stand in the suffix of a tag; between angle brackets also the flow indicators may. -/
def isTagChar (verbatim : Bool) (c : Char) : Bool :=
  isWord c || tagPunctuation.contains c || (verbatim && [',', '[', ']'].contains c)

/-- The number of octets of a character by its first one. -/
def octetCount? (first : Nat) : Option Nat :=
  if first < 0x80 then some 1
  else if first < 0xC0 then none
  else if first < 0xE0 then some 2
  else if first < 0xF0 then some 3
  else if first < 0xF8 then some 4
  else none

/-- Reads one percent escape. -/
def readOctet (cs : List Char) : Except Fault (Nat × List Char) :=
  match cs with
  | '%' :: a :: b :: rest =>
    match hexValue? a, hexValue? b with
    | some a, some b => .ok (16 * a + b, rest)
    | _, _ => .error .badTag
  | _ => .error .badTag

/-- Reads `count` escapes of continuation octets. -/
def readContinuation : (count : Nat) → List Char → Except Fault (List UInt8 × List Char)
  | 0, cs => .ok ([], cs)
  | count + 1, cs => do
    let (o, rest) ← readOctet cs
    if o < 0x80 || 0xC0 ≤ o then .error .badTag
    else
      let (more, rest) ← readContinuation count rest
      .ok (UInt8.ofNat o :: more, rest)

/-- Reads the characters of a tag as octets. -/
def readTagOctets (verbatim : Bool) :
    (fuel : Nat) → List Char → Except Fault (List UInt8 × List Char)
  | 0, cs => .ok ([], cs)
  | _ + 1, [] => .ok ([], [])
  | fuel + 1, c :: rest => do
    if c == '%' then
      let (o, after) ← readOctet (c :: rest)
      match octetCount? o with
      | none => .error .badTag
      | some count =>
        let (tail, after) ← readContinuation (count - 1) after
        let (more, after) ← readTagOctets verbatim fuel after
        .ok (UInt8.ofNat o :: (tail ++ more), after)
    else if isTagChar verbatim c then
      let (more, after) ← readTagOctets verbatim fuel rest
      .ok (UInt8.ofNat c.toNat :: more, after)
    else .ok ([], c :: rest)

/-- Reads the characters of a tag at the cursor. -/
def readTagText (verbatim : Bool) (c : Cursor) : Except Fault (List UInt8 × Cursor) := do
  let (octets, rest) ← readTagOctets verbatim (c.rest.length + 1) c.rest
  .ok (octets, c.skip (c.rest.length - rest.length))

/-- Reads what can be a handle: an exclamation mark, a word, and a second mark if it follows. -/
def readHandle (c : Cursor) : Except Fault (List Char × Cursor) :=
  if !c.isAt '!' then .error .badTag
  else
    let (word, c) := (c.skip 1).span isWord
    if c.isAt '!' then .ok ('!' :: word ++ ['!'], c.skip 1) else .ok ('!' :: word, c)

/-- The octets of a word, which is plain ASCII. -/
def wordOctets (cs : List Char) : List UInt8 := cs.map fun c ↦ UInt8.ofNat c.toNat

/-- The octets before the first zero octet, which ends a tag. -/
def untilZero (octets : List UInt8) : List UInt8 := octets.takeWhile (· ≠ 0)

/-- Reads a tag at its exclamation mark. -/
def readTag (inFlow : Bool) (c : Cursor) : Except Fault (Token × Cursor) := do
  let (token, c) ←
    if c.at? 1 == some '<' then do
      let (suffix, c) ← readTagText true (c.skip 2)
      if suffix.isEmpty || !c.isAt '>' then .error .badTag
      else pure (Token.tag [] (untilZero suffix), c.skip 1)
    else do
      let (handle, c) ← readHandle c
      if handle.length > 1 && handle.getLast? == some '!' then
        let (suffix, c) ← readTagText false c
        if suffix.isEmpty then .error .badTag else pure (Token.tag handle (untilZero suffix), c)
      else
        let (more, c) ← readTagText false c
        let suffix := untilZero (wordOctets (handle.drop 1) ++ more)
        if suffix.isEmpty then pure (Token.tag [] (wordOctets ['!']), c)
        else pure (Token.tag ['!'] suffix, c)
  if isBlankOrEnd c.head? || (inFlow && c.isAt ',') then .ok (token, c) else .error .badTag

/-! ## Directives -/

/-- Reads a version number of at most nine digits. -/
def readVersionNumber (c : Cursor) : Except Fault (Nat × Cursor) :=
  let (digits, c) := c.span Char.isDigit
  if digits.isEmpty || digits.length > 9 then .error .badDirective
  else .ok (digits.foldl (fun n d ↦ 10 * n + (d.toNat - '0'.toNat)) 0, c)

/-- Reads a directive from behind its percent sign, with the rest of its line. -/
def readDirective (c : Cursor) : Except Fault (Token × Cursor) := do
  let (name, c) := c.span isWord
  if name.isEmpty || !isBlankOrEnd c.head? then .error .badDirective
  else
    let (token, c) ←
      if name == ['Y', 'A', 'M', 'L'] then do
        let (major, c) ← readVersionNumber (c.skipWhile isBlank)
        if !c.isAt '.' then .error .badDirective
        else
          let (minor, c) ← readVersionNumber (c.skip 1)
          pure (Token.versionDirective major minor, c)
      else if name == ['T', 'A', 'G'] then do
        let (handle, c) ← readHandle (c.skipWhile isBlank)
        if (handle.length > 1 && handle.getLast? ≠ some '!') || !c.head?.any isBlank then
          .error .badDirective
        else
          let (expansion, c) ← readTagText true (c.skipWhile isBlank)
          if expansion.isEmpty || !isBlankOrEnd c.head? then .error .badDirective
          else pure (Token.tagDirective handle (untilZero expansion), c)
      else .error .badDirective
    let c := c.skipWhile isBlank
    let c := if c.isAt '#' then c.restOfLine.2 else c
    match c.takeBreak? with
    | some (_, c) => .ok (token, c)
    | none => if c.rest.isEmpty then .ok (token, c) else .error .badDirective

end EndpointSync.Yaml
