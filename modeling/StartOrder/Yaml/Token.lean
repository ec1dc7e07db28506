import StartOrder.Yaml.Source

/-!
# Tokens

The words of a YAML text: indicators, node properties, directives and scalars, and the starts and
ends of block collections, which the text shows by indentation alone. Each stands between two places
of the text.
-/

namespace StartOrder.Yaml

/-- How a scalar is written. -/
inductive ScalarStyle where
  /-- Neither with quotes nor with an indicator. -/
  | plain
  | quoted
  /-- In a block of lines that are kept. -/
  | literal
  /-- In a block of lines that are folded. -/
  | folded
  deriving DecidableEq, Repr, Inhabited

/-- What a token is. -/
inductive TokenKind where
  | versionDirective (major minor : Nat)
  /-- The octets that a tag handle stands for. -/
  | tagDirective (handle : String) (lead : List UInt8)
  | documentStart
  | documentEnd
  | streamEnd
  | blockSequenceStart
  | blockMappingStart
  | blockEnd
  | flowSequenceStart
  | flowSequenceEnd
  | flowMappingStart
  | flowMappingEnd
  | blockEntry
  | flowEntry
  | key
  | value
  | alias (name : String)
  | anchor (name : String)
  /-- A tag: the handle of a directive, empty for none, and the octets behind it. -/
  | tag (handle : String) (suffix : List UInt8)
  | scalar (style : ScalarStyle) (text : String)
  deriving DecidableEq, Repr

/-- A token and the places between which it stands. -/
structure Token where
  kind : TokenKind
  start : Mark
  stop : Mark
  deriving Repr

end StartOrder.Yaml
