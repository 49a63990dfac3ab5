import Chronicle.Yaml.Mark
import Chronicle.Yaml.Tag

/-!
# Tokens of a YAML text

Tokens are indicators, the virtual starts and ends of indented collections, node
properties, directives and scalars, each with its place.
-/

namespace Chronicle.Yaml

/-- Only whether a scalar is plain matters for its meaning. -/
inductive ScalarStyle
  | plain
  | quoted
  | block
  deriving DecidableEq, Repr

/-- The tag `handle ++ suffix` before its handle is looked up; without a handle
it is complete. -/
structure TagName where
  handle : String
  suffix : Tag
  deriving DecidableEq, Repr

inductive TokenKind
  | streamStart
  | streamEnd
  | versionDirective (major minor : Nat)
  | tagDirective (handle : String) (expansion : Tag)
  | documentStart
  | documentEnd
  | blockSequenceStart
  | blockMappingStart
  | blockEnd
  | flowSequenceStart
  | flowSequenceEnd
  | flowMappingStart
  | flowMappingEnd
  | blockEntry
  | flowEntry
  | key
  | value
  | alias (name : String)
  | anchor (name : String)
  | tag (name : TagName)
  | scalar (text : String) (style : ScalarStyle)
  deriving DecidableEq, Repr

structure Token where
  kind : TokenKind
  first : Mark
  last : Mark
  deriving Repr

end Chronicle.Yaml
