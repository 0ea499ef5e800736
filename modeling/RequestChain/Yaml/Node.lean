import RequestChain.OrderedMap
import RequestChain.Yaml.Token.Lexer

/-! # The nodes of a document

Tokens in a row are a tree of scalars, sequences and mappings. A node may bear an anchor, which
aliases refer to, and a tag. An anchor is kept as a number, namely how many names of anchors were in
use before it; an alias holds the number that its name had last.
-/

namespace RequestChain.Yaml

/-- What a tag says about a node. -/
inductive Tag where
  | null
  | bool
  | int
  | float
  /-- A tag of the application. -/
  | application
  /-- A tag of the application whose octets are no text. -/
  | garbled
  /-- Any other tag. -/
  | other
  deriving DecidableEq, Repr, Inhabited

/-- What the octets of a tag say. -/
def Tag.ofOctets (octets : List UInt8) : Tag :=
  let isCore (name : String) := octets == Text.utf8Encode ("tag:yaml.org,2002:" ++ name).toList
  if isCore "null" then .null
  else if isCore "bool" then .bool
  else if isCore "int" then .int
  else if isCore "float" then .float
  else if octets.head? == some '!'.toNat.toUInt8 then
    if (Text.utf8Decode? octets).isSome then .application else .garbled
  else .other

/-- A node of a document. -/
inductive Node where
  /-- A text, and whether it is plain. -/
  | scalar (anchor : Option Nat) (tag : Option Tag) (text : String) (plain : Bool)
  | sequence (anchor : Option Nat) (tag : Option Tag) (items : List Node)
  | mapping (anchor : Option Nat) (tag : Option Tag) (entries : List (Node × Node))
  | alias (number : Nat)
  deriving Repr, Inhabited

namespace Node

/-- A node that is not there. -/
def missing : Node := .scalar none none "" true

/-- Tokens still to be composed, with what is known from those before. -/
structure Source where
  tokens : List Token
  /-- The numbers of anchors by name. -/
  anchors : OrderedMap Nat := .empty
  /-- What the handles of tags stand for. -/
  handles : List (List Char × List UInt8) := []

/-- Composes something from tokens, or fails. -/
abbrev Composing := StateT Source Option

/-- The next token. -/
def peek : Composing (Option Token) := do
  return (← get).tokens.head?

/-- Passes over the next token. -/
def skip : Composing Unit :=
  modify fun source => { source with tokens := source.tokens.drop 1 }

/-- Passes over the next token if it is this one. -/
def accept (token : Token) : Composing Bool := do
  if (← peek) == some token then
    skip
    return true
  else return false

/-- Passes over the next token, which must be this one. -/
def expect (token : Token) : Composing Unit := do
  if ← accept token then pure () else failure

/-- Gives an anchor its number. -/
def numberAnchor (name : List Char) : Composing Nat := do
  let number := (← get).anchors.entries.length
  modify fun source =>
    { source with anchors := source.anchors.insert (String.ofList name) number }
  return number

/-- The octets of a tag, whose handle must be known. -/
def expandTag (handle : List Char) (suffix : List UInt8) : Composing (List UInt8) := do
  if handle.isEmpty then return suffix
  match (← get).handles.lookup handle with
  | some expansion => return expansion ++ suffix
  | none => failure

/-- What stands in front of a node. -/
structure Properties where
  anchor : Option Nat := none
  tag : Option (List UInt8) := none

/-- An anchor, if there is one. -/
def readAnchor : Composing (Option Nat) := do
  match ← peek with
  | some (.anchor name) =>
    skip
    return some (← numberAnchor name)
  | _ => return none

/-- A tag, if there is one. -/
def readTag : Composing (Option (List UInt8)) := do
  match ← peek with
  | some (.tag handle suffix) =>
    skip
    return some (← expandTag handle suffix)
  | _ => return none

/-- An anchor and a tag in any order. -/
def properties : Composing Properties := do
  match ← readAnchor with
  | some anchor => return { anchor := some anchor, tag := ← readTag }
  | none =>
    match ← readTag with
    | some tag => return { tag := some tag, anchor := ← readAnchor }
    | none => return {}

/-- The tag of a scalar; an exclamation mark alone is none. -/
def scalarTag (tag : Option (List UInt8)) : Option Tag :=
  (tag.filter (· != ['!'.toNat.toUInt8])).map Tag.ofOctets

/-- Tokens in front of which an entry of a block sequence is missing. -/
def endsBlockItem (token : Token) : Bool :=
  token == .blockEntry || token == .blockEnd

/-- Tokens in front of which a key or a value of a block mapping is missing. -/
def endsBlockEntry (token : Token) : Bool :=
  token == .key || token == .value || token == .blockEnd

/-- Tokens in front of which an entry of a sequence that is not indented is missing. -/
def endsFlushItem (token : Token) : Bool :=
  token == .blockEntry || endsBlockEntry token

/-- Tokens in front of which a part of an entry of a flow collection is missing. -/
def endsFlowPart (closing token : Token) : Bool :=
  token == .flowEntry || token == closing

/-- Tokens in front of which a key in a flow collection is missing. -/
def endsFlowKey (closing token : Token) : Bool :=
  token == .value || endsFlowPart closing token

/-- Where a node stands. -/
inductive Place where
  /-- Inside of a flow collection. -/
  | flow
  /-- Where a block collection may begin. -/
  | block
  /-- Where also a sequence may begin that is not indented. -/
  | blockEntry
  deriving DecidableEq

mutual

/-- A node. The first number bounds how deep it is. -/
def compose : Nat → Place → Composing Node
  | 0, _ => failure
  | bound + 1, place => do
    match ← peek with
    | some (.alias name) =>
      skip
      match (← get).anchors.get? (String.ofList name) with
      | some number => return .alias number
      | none => failure
    | _ =>
      let given ← properties
      let tag := given.tag.map Tag.ofOctets
      match ← peek with
      | some (.scalar text plain) =>
        skip
        return .scalar given.anchor (scalarTag given.tag) (String.ofList text) plain
      | some .flowSequenceStart =>
        skip
        return .sequence given.anchor tag (← flowItems bound true)
      | some .flowMappingStart =>
        skip
        return .mapping given.anchor tag (← flowEntries bound true)
      | some .blockEntry =>
        if place == .blockEntry then return .sequence given.anchor tag (← flushItems bound)
        else missingNode given
      | some .blockSequenceStart =>
        if place == .flow then missingNode given
        else
          skip
          return .sequence given.anchor tag (← blockItems bound)
      | some .blockMappingStart =>
        if place == .flow then missingNode given
        else
          skip
          return .mapping given.anchor tag (← blockEntries bound)
      | _ => missingNode given

/-- A node of which only the properties are there. -/
def missingNode (given : Properties) : Composing Node :=
  if given.anchor.isNone && given.tag.isNone then failure
  else return .scalar given.anchor (given.tag.map Tag.ofOctets) "" true

/-- A node, or a missing one in front of certain tokens. -/
def composeUnless (ends : Token → Bool) : Nat → Place → Composing Node
  | 0, _ => failure
  | bound + 1, place => do
    if (← peek).any ends then return missing else compose bound place

/-- The value of a key, if there is one. -/
def composeValue (ends : Token → Bool) : Nat → Place → Composing Node
  | 0, _ => failure
  | bound + 1, place => do
    if ← accept .value then composeUnless ends bound place else return missing

/-- The entries of a block sequence. -/
def blockItems : Nat → Composing (List Node)
  | 0 => failure
  | bound + 1 => do
    if ← accept .blockEnd then return []
    expect .blockEntry
    let item ← composeUnless endsBlockItem bound .block
    return item :: (← blockItems bound)

/-- The entries of a sequence that is not indented. -/
def flushItems : Nat → Composing (List Node)
  | 0 => failure
  | bound + 1 => do
    if ← accept .blockEntry then
      let item ← composeUnless endsFlushItem bound .block
      return item :: (← flushItems bound)
    else return []

/-- The entries of a block mapping. -/
def blockEntries : Nat → Composing (List (Node × Node))
  | 0 => failure
  | bound + 1 => do
    if ← accept .blockEnd then return []
    expect .key
    let key ← composeUnless endsBlockEntry bound .blockEntry
    let value ← composeValue endsBlockEntry bound .blockEntry
    return (key, value) :: (← blockEntries bound)

/-- The entries of a flow sequence. An entry may be a mapping of a single key; where that key is
missing, the token in its place is lost. -/
def flowItems : Nat → (first : Bool) → Composing (List Node)
  | 0, _ => failure
  | bound + 1, first => do
    if ← accept .flowSequenceEnd then return []
    unless first do expect .flowEntry
    if ← accept .flowSequenceEnd then return []
    if ← accept .key then
      let lacksKey := (← peek).any (endsFlowKey .flowSequenceEnd)
      if lacksKey then skip
      let key ← if lacksKey then pure missing else compose bound .flow
      let value ← composeValue (endsFlowPart .flowSequenceEnd) bound .flow
      return .mapping none none [(key, value)] :: (← flowItems bound false)
    else
      let item ← compose bound .flow
      return item :: (← flowItems bound false)

/-- The entries of a flow mapping. -/
def flowEntries : Nat → (first : Bool) → Composing (List (Node × Node))
  | 0, _ => failure
  | bound + 1, first => do
    if ← accept .flowMappingEnd then return []
    unless first do expect .flowEntry
    if ← accept .flowMappingEnd then return []
    if ← accept .key then
      let key ← composeUnless (endsFlowKey .flowMappingEnd) bound .flow
      let value ← composeValue (endsFlowPart .flowMappingEnd) bound .flow
      return (key, value) :: (← flowEntries bound false)
    else
      let key ← compose bound .flow
      return (key, missing) :: (← flowEntries bound false)

end

end Node

end RequestChain.Yaml
