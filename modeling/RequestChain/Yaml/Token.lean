/-! # Tokens of a document

What the characters of a document amount to before its structure is known. Collections that are
laid out by indentation are bracketed by tokens of their own; the end of the document is the end
of the list.
-/

namespace RequestChain.Yaml

/-- A part of a document. -/
inductive Token where
  | versionDirective (major minor : Nat)
  /-- What a handle of tags stands for. -/
  | tagDirective (handle : List Char) (expansion : List UInt8)
  | documentStart
  | documentEnd
  | blockSequenceStart
  | blockMappingStart
  | blockEnd
  | flowSequenceStart
  | flowSequenceEnd
  | flowMappingStart
  | flowMappingEnd
  | blockEntry
  | flowEntry
  | key
  | value
  | alias (name : List Char)
  | anchor (name : List Char)
  /-- A tag without handle has an empty one. -/
  | tag (handle : List Char) (suffix : List UInt8)
  /-- A text, and whether it stands without quotes in running text. -/
  | scalar (text : List Char) (plain : Bool)
  deriving DecidableEq, Repr, Inhabited

end RequestChain.Yaml
