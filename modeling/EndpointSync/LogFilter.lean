import EndpointSync.Text.Blank
import EndpointSync.Text.Digits
import EndpointSync.Text.Letters

/-!
# Log filters

A filter is a list of directives with commas between them; empty ones do not count. A directive is a
level, a target, a span in brackets with fields in braces, or some of these together, with a level
after an equals sign.
-/

namespace EndpointSync.LogFilter

/-- The names of the levels, and that of none. -/
def levelNames : List String := ["error", "warn", "info", "debug", "trace", "off"]

/-- The text is a level: a name in any case, or a number up to five. Nothing at all is one too. -/
def isLevel (cs : List Char) : Bool :=
  let digits := match cs with
    | '+' :: rest => rest
    | _ => cs
  cs.isEmpty || (Text.natural? 10 digits).any (· ≤ 5) ||
    String.ofList (cs.map Char.toLower) ∈ levelNames

/-- How far a directive has been read. -/
inductive State where
  | start
  | levelOrTarget
  /-- In the name of a span. -/
  | span
  /-- In a field of a span; `isEmpty` tells whether it has any characters yet. -/
  | field (isEmpty : Bool)
  /-- After the fields. -/
  | fields
  /-- After the bracket that closes a span. -/
  | target
  | level
deriving DecidableEq, Repr

/-- `c` can start a level or a target. -/
def startsTarget (c : Char) : Bool :=
  c ∈ ['-', ':', '_'] || Text.isLetterOrNumber c

/-- Reads one more character, unless it cannot stand here. -/
def step (s : State) (c : Char) : Option State :=
  match s with
  | .start => if c == '[' then some .span else if startsTarget c then some .levelOrTarget else none
  | .levelOrTarget =>
    if c == '=' then some .level else if c == '[' then some .span else some .levelOrTarget
  | .span =>
    if c == ']' then some .target else if c == '\x7b' then some (.field true) else some .span
  | .field isEmpty =>
    if c == '\x7d' then if isEmpty then none else some .fields else some (.field false)
  | .fields => if c == ']' then some .target else none
  | .target => if c == '=' then some .level else none
  | .level => some .level

def State.isFinal : State → Bool
  | .levelOrTarget => true
  | .target => true
  | .level => true
  | _ => false

/-- What stands behind the equals sign that announces a level. `read` is what came before. -/
def levelPart : (s : State) → List Char → Option (List Char)
  | _, [] => none
  | s, c :: cs =>
    match step s c with
    | some .level => some cs
    | some next => levelPart next cs
    | none => none

/-- The characters form a directive. Blanks before them put the level out of place, and blanks
behind them become a part of it. -/
def isDirective (cs : List Char) : Bool :=
  let trimmed := Text.trim cs
  match trimmed.foldlM step .start with
  | none => false
  | some .level =>
    let offset := trimmed.length - ((levelPart .start trimmed).getD []).length
    isLevel (cs.drop offset)
  | some s => s.isFinal

def isValid (text : String) : Bool :=
  (text.splitOn ",").all fun piece ↦ piece.isEmpty || isDirective piece.toList

def invalidMessage : String := "invalid log filter"

end EndpointSync.LogFilter
