import RequestChain.Yaml.Node

/-! # Documents

A text holds at most one document. It may begin with directives and be closed by a mark. An alias
means the node that got its number last, wherever that node stands.
-/

namespace RequestChain.Yaml

namespace Node

/-- The version and the handles of directives. -/
structure Directives where
  hasVersion : Bool := false
  handles : List (List Char × List UInt8) := []

/-- The handles that need no directive. -/
def standardHandles : List (List Char × List UInt8) :=
  [(['!'], ['!'.toNat.toUInt8]),
    (['!', '!'], Text.utf8Encode ("tag:yaml.org,2002:").toList)]

/-- One more directive. At most one says the version, and each handle is declared at most once. -/
def Directives.add? (directives : Directives) : Token → Option Directives
  | .versionDirective major minor =>
    if directives.hasVersion || major != 1 || !(minor == 1 || minor == 2) then none
    else some { directives with hasVersion := true }
  | .tagDirective handle expansion =>
    if (directives.handles.lookup handle).isSome then none
    else some { directives with handles := directives.handles ++ [(handle, expansion)] }
  | _ => none

/-- Whether a token is a directive. -/
def isDirective : Token → Bool
  | .versionDirective _ _ | .tagDirective _ _ => true
  | _ => false

/-- Whether a document without content ends in front of a token. -/
def endsDocument (token : Token) : Bool :=
  isDirective token || token == .documentStart || token == .documentEnd

/-- The root of the only document, if there is one. -/
def ofTokens? (tokens : List Token) : Option (Option Node) := do
  let bound := 4 * tokens.length + 4
  let directives ← (tokens.takeWhile isDirective).foldlM Directives.add? {}
  let content := tokens.dropWhile isDirective
  let source : Source :=
    { tokens := content, handles := directives.handles ++ standardHandles }
  let (root, rest) ←
    match content with
    | .documentStart :: content =>
      match content with
      | [] => some (some missing, [])
      | token :: _ =>
        if endsDocument token then some (some missing, content)
        else do
          let (root, left) ← (compose bound .block).run { source with tokens := content }
          some (some root, left.tokens)
    | [] => if tokens.isEmpty then some (none, []) else none
    | _ =>
      if (tokens.head?.any isDirective) then none
      else do
        let (root, left) ← (compose bound .block).run source
        some (some root, left.tokens)
  if rest.all (· == .documentEnd) then some root else none

/-- How many events a reader of the document sees. -/
def events : Node → Nat
  | .scalar _ _ _ _ | .alias _ => 1
  | .sequence _ _ items => 2 + eventsOfItems items
  | .mapping _ _ entries => 2 + eventsOfEntries entries
where
  /-- Those of the items of a sequence. -/
  eventsOfItems : List Node → Nat
    | [] => 0
    | item :: rest => item.events + eventsOfItems rest
  /-- Those of the entries of a mapping. -/
  eventsOfEntries : List (Node × Node) → Nat
    | [] => 0
    | (key, value) :: rest => key.events + value.events + eventsOfEntries rest

/-- A node under the number of its anchor. -/
def numbered (node : Node) : Option Nat → List (Nat × Node)
  | some number => [(number, node)]
  | none => []

/-- The nodes with anchors, in the order in which they begin. -/
def anchored : Node → List (Nat × Node)
  | .alias _ => []
  | .scalar anchor tag text plain => numbered (.scalar anchor tag text plain) anchor
  | .sequence anchor tag items =>
    numbered (.sequence anchor tag items) anchor ++ anchoredItems items
  | .mapping anchor tag entries =>
    numbered (.mapping anchor tag entries) anchor ++ anchoredEntries entries
where
  /-- Those among the items of a sequence. -/
  anchoredItems : List Node → List (Nat × Node)
    | [] => []
    | item :: rest => item.anchored ++ anchoredItems rest
  /-- Those among the entries of a mapping. -/
  anchoredEntries : List (Node × Node) → List (Nat × Node)
    | [] => []
    | (key, value) :: rest => key.anchored ++ value.anchored ++ anchoredEntries rest

end Node

/-- A document that has been composed. -/
structure Document where
  /-- The root, unless the text holds no document. -/
  root : Option Node
  /-- The nodes with anchors, the last one first. -/
  targets : List (Nat × Node)
  /-- How many events a reader sees. -/
  events : Nat

/-- The document of a text. -/
def Document.parse? (text : String) : Option Document := do
  let root ← Node.ofTokens? (← Token.ofText? text.toList)
  some
    { root
      targets := ((root.map Node.anchored).getD []).reverse
      events := (root.map Node.events).getD 1 }

end RequestChain.Yaml
