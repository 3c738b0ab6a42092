/-
  Tokens of a YAML document. Indentation has been turned into tokens that open and close block
  collections, and a key that was recognised by the colon after it has its own token before it.
-/
import AskSheet.Yaml.Writer

namespace AskSheet.Yaml

/-- One token of a document. A tag has a handle, which is empty when the rest is the whole tag, and a rest
    in octets. -/
inductive Token where
  | version (major minor : Nat)
  | tagHandle (handle : List Char) (octets : List UInt8)
  | documentStart
  | documentEnd
  | blockSequenceStart
  | blockMappingStart
  | blockEnd
  | flowSequenceStart
  | flowSequenceEnd
  | flowMappingStart
  | flowMappingEnd
  | blockEntry
  | flowEntry
  | key
  | value
  | alias (name : List Char)
  | anchor (name : List Char)
  | tag (handle : List Char) (octets : List UInt8)
  | scalar (style : Style) (text : List Char)
  deriving DecidableEq, Repr

end AskSheet.Yaml
