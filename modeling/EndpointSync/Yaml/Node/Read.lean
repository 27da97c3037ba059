import EndpointSync.Yaml.Fault
import EndpointSync.Yaml.Node
import EndpointSync.Yaml.Token

/-!
# From tokens to nodes

Collections nest at most `maxNesting` deep, so the reader recurses on the depth: each loop over the
entries of a collection is given the reader for one level less. The loops run on the number of
tokens, of which every round consumes one.

A missing node is an empty plain scalar. Which tokens count as "nothing here" differs from place to
place and is written out at each.
-/

namespace EndpointSync.Yaml

def maxNesting : Nat := 128

/-- What a tag handle stands for, by handle. -/
abbrev Handles : Type := List (List Char × List UInt8)

/-- The handles that need no directive. -/
def defaultHandles : Handles :=
  [(['!'], ['!'].map fun c ↦ UInt8.ofNat c.toNat),
   (['!', '!'], "tag:yaml.org,2002:".toList.map fun c ↦ UInt8.ofNat c.toNat)]

/-- The octet of the exclamation mark, which alone is the non-specific tag. -/
def bang : UInt8 := UInt8.ofNat '!'.toNat

/-- Reads a node where collections may nest `depth` deep. `block` admits block collections, and
`indentless` a block sequence at the column of its parent mapping. -/
abbrev NodeReader : Type :=
  (block indentless : Bool) → List Token → Except Fault (NamedNode × List Token)

namespace Node

/-! ## Properties -/

/-- The tag that a handle and a suffix expand to. -/
def expandTag (handles : Handles) (handle : List Char) (suffix : List UInt8) :
    Except Fault (List UInt8) :=
  if handle.isEmpty then .ok suffix
  else match handles.find? (·.1 == handle) with
    | some (_, expansion) => .ok (expansion ++ suffix)
    | none => .error .undefinedTagHandle

/-- Reads an anchor and a tag, either of them optional, in either order. -/
def readProperties (handles : Handles) (ts : List Token) :
    Except Fault (Properties × List Token) := do
  match ts with
  | .anchor a :: .tag h s :: rest =>
    .ok ({ anchor := some a, tag := some (← expandTag handles h s) }, rest)
  | .tag h s :: .anchor a :: rest =>
    .ok ({ anchor := some a, tag := some (← expandTag handles h s) }, rest)
  | .anchor a :: rest => .ok ({ anchor := some a }, rest)
  | .tag h s :: rest => .ok ({ tag := some (← expandTag handles h s) }, rest)
  | _ => .ok ({}, ts)

/-- A scalar. The non-specific tag says nothing about it and is dropped. -/
def scalarOf (props : Properties) (text : List Char) (plain : Bool) : NamedNode :=
  if props.tag == some [bang] then .scalar { props with tag := none } text plain
  else .scalar props text plain

/-! ## Block collections -/

/-- Reads the entries of a block sequence from behind its start. -/
def readBlockItems (node : NodeReader) :
    (fuel : Nat) → (acc : List NamedNode) → List Token → Except Fault (List NamedNode × List Token)
  | 0, _, _ => .error .badStructure
  | fuel + 1, acc, ts => do
    match ts with
    | .blockEntry :: rest =>
      let (item, rest) ← match rest with
        | .blockEntry :: _ => pure (empty, rest)
        | .blockEnd :: _ => pure (empty, rest)
        | _ => node true false rest
      readBlockItems node fuel (item :: acc) rest
    | .blockEnd :: rest => .ok (acc.reverse, rest)
    | _ => .error .badStructure

/-- Reads the entries of a sequence that stands at the column of its parent mapping. It ends where
no dash follows. -/
def readIndentlessItems (node : NodeReader) :
    (fuel : Nat) → (acc : List NamedNode) → List Token → Except Fault (List NamedNode × List Token)
  | 0, _, _ => .error .badStructure
  | fuel + 1, acc, ts => do
    match ts with
    | .blockEntry :: rest =>
      let (item, rest) ← match rest with
        | .blockEntry :: _ => pure (empty, rest)
        | .key :: _ => pure (empty, rest)
        | .value :: _ => pure (empty, rest)
        | .blockEnd :: _ => pure (empty, rest)
        | _ => node true false rest
      readIndentlessItems node fuel (item :: acc) rest
    | _ => .ok (acc.reverse, ts)

/-- Reads a key or a value of a block mapping, from behind its indicator. -/
def readBlockSide (node : NodeReader) (ts : List Token) : Except Fault (NamedNode × List Token) :=
  match ts with
  | .key :: _ => .ok (empty, ts)
  | .value :: _ => .ok (empty, ts)
  | .blockEnd :: _ => .ok (empty, ts)
  | _ => node true true ts

/-- Reads the entries of a block mapping from behind its start. -/
def readBlockEntries (node : NodeReader) :
    (fuel : Nat) → (acc : List (NamedNode × NamedNode)) → List Token →
      Except Fault (List (NamedNode × NamedNode) × List Token)
  | 0, _, _ => .error .badStructure
  | fuel + 1, acc, ts => do
    match ts with
    | .key :: rest =>
      let (k, rest) ← readBlockSide node rest
      let (v, rest) ← match rest with
        | .value :: rest => readBlockSide node rest
        | _ => pure (empty, rest)
      readBlockEntries node fuel ((k, v) :: acc) rest
    | .blockEnd :: rest => .ok (acc.reverse, rest)
    | _ => .error .badStructure

/-! ## Flow collections -/

/-- Moves over the comma before an entry that is not the first. -/
def takeComma (first : Bool) (ts : List Token) : Except Fault (List Token) :=
  if first then .ok ts
  else match ts with
    | .flowEntry :: rest => .ok rest
    | _ => .error .badStructure

/-- Reads a pair that stands for a one-entry mapping in a flow sequence, from behind its key
indicator. A key that is left out swallows the token that shows it. -/
def readFlowPair (node : NodeReader) (ts : List Token) : Except Fault (NamedNode × List Token) := do
  let (k, rest) ← match ts with
    | .value :: rest => pure (empty, rest)
    | .flowEntry :: rest => pure (empty, rest)
    | .flowSequenceEnd :: rest => pure (empty, rest)
    | _ => node false false ts
  let (v, rest) ← match rest with
    | .value :: rest =>
      match rest with
      | .flowEntry :: _ => pure (empty, rest)
      | .flowSequenceEnd :: _ => pure (empty, rest)
      | _ => node false false rest
    | _ => pure (empty, rest)
  .ok (.map {} [(k, v)], rest)

def readFlowItems (node : NodeReader) :
    (fuel : Nat) → (first : Bool) → (acc : List NamedNode) → List Token →
      Except Fault (List NamedNode × List Token)
  | 0, _, _, _ => .error .badStructure
  | fuel + 1, first, acc, ts => do
    match ts with
    | .flowSequenceEnd :: rest => .ok (acc.reverse, rest)
    | _ =>
      match ← takeComma first ts with
      | .key :: rest => do
        let (pair, rest) ← readFlowPair node rest
        readFlowItems node fuel false (pair :: acc) rest
      | .flowSequenceEnd :: rest => .ok (acc.reverse, rest)
      | ts => do
        let (item, rest) ← node false false ts
        readFlowItems node fuel false (item :: acc) rest

/-- Reads a key or a value of a flow mapping. -/
def readFlowSide (node : NodeReader) (colonEnds : Bool) (ts : List Token) :
    Except Fault (NamedNode × List Token) :=
  match ts with
  | .value :: _ => if colonEnds then .ok (empty, ts) else node false false ts
  | .flowEntry :: _ => .ok (empty, ts)
  | .flowMappingEnd :: _ => .ok (empty, ts)
  | _ => node false false ts

def readFlowEntries (node : NodeReader) :
    (fuel : Nat) → (first : Bool) → (acc : List (NamedNode × NamedNode)) → List Token →
      Except Fault (List (NamedNode × NamedNode) × List Token)
  | 0, _, _, _ => .error .badStructure
  | fuel + 1, first, acc, ts => do
    match ts with
    | .flowMappingEnd :: rest => .ok (acc.reverse, rest)
    | _ =>
      match ← takeComma first ts with
      | .key :: rest => do
        let (k, rest) ← readFlowSide node true rest
        let (v, rest) ← match rest with
          | .value :: rest => readFlowSide node false rest
          | _ => pure (empty, rest)
        readFlowEntries node fuel false ((k, v) :: acc) rest
      | .flowMappingEnd :: rest => .ok (acc.reverse, rest)
      | ts => do
        let (k, rest) ← node false false ts
        readFlowEntries node fuel false ((k, empty) :: acc) rest

/-! ## Nodes -/

/-- Reads a node where collections may nest `depth` deep. -/
def read (handles : Handles) : (depth : Nat) → NodeReader
  | depth, block, indentless, ts => do
    let below (loop : NodeReader → Except Fault (NamedNode × List Token)) :
        Except Fault (NamedNode × List Token) :=
      match depth with
      | 0 => .error .tooDeep
      | depth + 1 => loop (read handles depth)
    match ts with
    | .alias name :: rest => .ok (.alias name, rest)
    | _ =>
      let (props, ts) ← readProperties handles ts
      let fuel := ts.length + 1
      match ts with
      | .scalar text plain :: rest => .ok (scalarOf props text plain, rest)
      | .flowSequenceStart :: rest => below fun node ↦ do
        let (items, rest) ← readFlowItems node fuel true [] rest
        .ok (.seq props items, rest)
      | .flowMappingStart :: rest => below fun node ↦ do
        let (entries, rest) ← readFlowEntries node fuel true [] rest
        .ok (.map props entries, rest)
      | .blockEntry :: _ =>
        if indentless then below fun node ↦ do
          let (items, rest) ← readIndentlessItems node fuel [] ts
          .ok (.seq props items, rest)
        else absent props ts
      | .blockSequenceStart :: rest =>
        if block then below fun node ↦ do
          let (items, rest) ← readBlockItems node fuel [] rest
          .ok (.seq props items, rest)
        else absent props ts
      | .blockMappingStart :: rest =>
        if block then below fun node ↦ do
          let (entries, rest) ← readBlockEntries node fuel [] rest
          .ok (.map props entries, rest)
        else absent props ts
      | _ => absent props ts
where
  /-- Properties alone are an empty scalar, and nothing at all is an error. -/
  absent (props : Properties) (ts : List Token) : Except Fault (NamedNode × List Token) :=
    if props.anchor.isSome || props.tag.isSome then .ok (.scalar props [] true, ts)
    else .error .badStructure

/-! ## The stream -/

/-- The directives before a document: at most one version, which must be known, and no handle
twice. The default handles stand behind the declared ones. -/
def readDirectives : List Token → (version : Bool) → Handles → Except Fault (Handles × List Token)
  | .versionDirective major minor :: rest, version, handles =>
    if version || major ≠ 1 || (minor ≠ 1 && minor ≠ 2) then .error .badDirective
    else readDirectives rest true handles
  | .tagDirective handle expansion :: rest, version, handles =>
    if handles.any (·.1 == handle) then .error .badDirective
    else readDirectives rest version (handles ++ [(handle, expansion)])
  | ts, _, handles => .ok (handles ++ defaultHandles, ts)

/-- The document of a stream, if it has one. A second document is an error, even an empty one. -/
def ofTokens? (ts : List Token) : Except Fault (Option NamedNode) := do
  match ts with
  | [] => .ok none
  | _ =>
    let explicit := match ts with
      | .versionDirective .. :: _ => true
      | .tagDirective .. :: _ => true
      | .documentStart :: _ => true
      | _ => false
    let (handles, ts) ← readDirectives ts false []
    let (root, rest) ←
      if explicit then
        match ts with
        | .documentStart :: rest =>
          match rest with
          | [] => pure (empty, rest)
          | .versionDirective .. :: _ => pure (empty, rest)
          | .tagDirective .. :: _ => pure (empty, rest)
          | .documentStart :: _ => pure (empty, rest)
          | .documentEnd :: _ => pure (empty, rest)
          | _ => read handles maxNesting true false rest
        | _ => .error .badStructure
      else read handles maxNesting true false ts
    if (rest.dropWhile (· == .documentEnd)).isEmpty then .ok (some root)
    else .error .severalDocuments

end Node

end EndpointSync.Yaml
