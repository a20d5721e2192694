/-!
# CommandCompiler.Yaml.Token

The tokens of a document. Indentation shows only as the tokens that open and
close block collections.

* `Directive`, `Token` : the tokens.
-/

namespace CommandCompiler.Yaml

/-- What a directive says. -/
inductive Directive
  | version (major minor : Nat)
  /-- A short handle for tags that start with the given text. -/
  | tagHandle (handle start : String)
  /-- Any other directive means nothing. -/
  | other
  deriving Repr, DecidableEq

/-- A token. -/
inductive Token
  | streamEnd
  | directive (d : Directive)
  | documentStart
  | documentEnd
  | blockSequenceStart
  | blockMappingStart
  | blockEnd
  | flowSequenceStart
  | flowSequenceEnd
  | flowMappingStart
  | flowMappingEnd
  | blockEntry
  | flowEntry
  | key
  | value
  | alias (name : String)
  | anchor (name : String)
  | tag (handle : Option String) (suffix : String)
  /-- A scalar; a plain one stands without quotes and is not a block of text. -/
  | scalar (text : String) (plain : Bool)
  deriving Repr, DecidableEq, Inhabited

end CommandCompiler.Yaml
