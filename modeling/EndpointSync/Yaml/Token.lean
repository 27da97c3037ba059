/-!
# Tokens of YAML

Indentation and the keys that no indicator announces are resolved on this level already: a block
collection is bracketed by a start and an end, and every key stands behind a `key` token.
-/

namespace EndpointSync.Yaml

inductive Token where
  | versionDirective (major minor : Nat)
  | tagDirective (handle : List Char) (expansion : List UInt8)
  | documentStart
  | documentEnd
  | blockSequenceStart
  | blockMappingStart
  | blockEnd
  | flowSequenceStart
  | flowSequenceEnd
  | flowMappingStart
  | flowMappingEnd
  | blockEntry
  | flowEntry
  | key
  | value
  | alias (name : List Char)
  | anchor (name : List Char)
  /-- The handle is empty for a verbatim tag, and the suffix is a sequence of octets. -/
  | tag (handle : List Char) (suffix : List UInt8)
  | scalar (text : List Char) (plain : Bool)
deriving DecidableEq, Repr

end EndpointSync.Yaml
