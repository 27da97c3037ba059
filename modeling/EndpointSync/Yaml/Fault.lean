/-!
# What can be wrong with a YAML text

A template is accepted or refused as a whole, so the causes are coarse: each names the rule that
the text breaks.
-/

namespace EndpointSync.Yaml

inductive Fault where
  /-- A control character or a code point that is not a character. -/
  | forbiddenCharacter
  /-- No token starts with this character. -/
  | strayCharacter
  /-- An indicator stands where its construct cannot start. -/
  | misplacedIndicator
  /-- A line that had to be a key has no colon. -/
  | missingColon
  | badDirective
  | badAnchor
  | badTag
  | badEscape
  /-- A quoted text meets the end or a document marker. -/
  | unclosedQuote
  | badBlockHeader
  /-- A tab takes part in indentation. -/
  | tabIndent
  /-- The tokens do not form a node. -/
  | badStructure
  | undefinedTagHandle
  | undefinedAlias
  | severalDocuments
  /-- Collections nest too deep, or an alias contains itself. -/
  | tooDeep
  /-- Aliases are followed out of proportion to the size of the text. -/
  | tooManyAliases
  /-- A scalar is not of the type that its tag demands, or of no supported type. -/
  | badScalar
  | duplicateKey
  | notAMapping
deriving DecidableEq, Repr

end EndpointSync.Yaml
