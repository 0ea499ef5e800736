import RequestChain.Yaml.Token.Block
import RequestChain.Yaml.Token.Plain
import RequestChain.Yaml.Token.Quoted
import RequestChain.Yaml.Token.Tag

/-! # From characters to tokens

Tokens are read from left to right. A text on a single line may turn out to be the key of a mapping
only at the colon behind it; its place is then marked afterwards, by a token put in front of it.
Indentation opens and closes block collections outside of flow collections.
-/

namespace RequestChain.Yaml

/-- A place where a key may have begun. -/
structure KeyCandidate where
  /-- How many tokens stand in front of it. -/
  position : Nat
  index : Nat
  line : Nat
  column : Nat
  /-- Whether only a key can stand here. -/
  required : Bool
  deriving Repr, Inhabited

/-- What has been read of a document. -/
structure Lexer where
  cursor : Cursor
  /-- The tokens so far, the last one first. -/
  tokens : List Token := []
  /-- The columns of the open block collections, the innermost first. -/
  columns : List Nat := []
  /-- The last place outside of flow collections where a key may have begun. -/
  outerKey : Option KeyCandidate := none
  /-- The last such places inside of the open flow collections, the innermost first. -/
  flowKeys : List (Option KeyCandidate) := []
  /-- Whether a key may begin here. -/
  keyAllowed : Bool := true

namespace Lexer

/-- Whether a flow collection is open. -/
def inFlow (lexer : Lexer) : Bool := !lexer.flowKeys.isEmpty

/-- The first column that is deeper than the open block collections. -/
def base (lexer : Lexer) : Nat :=
  match lexer.columns with
  | [] => 0
  | column :: _ => column + 1

/-- Adds a token. -/
def emit (lexer : Lexer) (token : Token) : Lexer :=
  { lexer with tokens := token :: lexer.tokens }

/-- Adds a token behind the first `position` ones. -/
def emitAt (lexer : Lexer) (position : Nat) (token : Token) : Lexer :=
  let later := lexer.tokens.length - position
  { lexer with tokens := lexer.tokens.take later ++ token :: lexer.tokens.drop later }

/-- Moves on. -/
def moveTo (lexer : Lexer) (cursor : Cursor) : Lexer :=
  { lexer with cursor }

/-- Says whether a key may begin here. -/
def allowKey (lexer : Lexer) (keyAllowed : Bool) : Lexer :=
  { lexer with keyAllowed }

/-- The last place where a key of the innermost collection may have begun. -/
def candidate (lexer : Lexer) : Option KeyCandidate :=
  match lexer.flowKeys with
  | [] => lexer.outerKey
  | key :: _ => key

/-- Puts another candidate in the place of the innermost one. -/
def setCandidate (lexer : Lexer) (key : Option KeyCandidate) : Lexer :=
  match lexer.flowKeys with
  | [] => { lexer with outerKey := key }
  | _ :: outer => { lexer with flowKeys := key :: outer }

/-- Gives up the innermost candidate, unless only a key can stand there. -/
def dropCandidate? (lexer : Lexer) : Option Lexer :=
  if lexer.candidate.any (·.required) then none else some (lexer.setCandidate none)

/-- Takes this place as one where a key may begin. -/
def saveCandidate? (lexer : Lexer) : Option Lexer :=
  if !lexer.keyAllowed then some lexer
  else
    let cursor := lexer.cursor
    lexer.dropCandidate?.map (·.setCandidate (some
      { position := lexer.tokens.length
        index := cursor.index, line := cursor.line, column := cursor.column
        required := !lexer.inFlow && lexer.columns.head? == some cursor.column }))

/-- A key is on one line and begins at most 1024 characters in front of its colon. -/
def isStale (cursor : Cursor) (key : KeyCandidate) : Bool :=
  key.line < cursor.line || key.index + 1024 < cursor.index

/-- A candidate, unless the colon is too far away; then it must not be required. -/
def refresh? (cursor : Cursor) : Option KeyCandidate → Option (Option KeyCandidate)
  | none => some none
  | some key =>
    if !isStale cursor key then some (some key)
    else if key.required then none
    else some none

/-- Gives up the candidates whose colon would be too far away. -/
def dropStale? (lexer : Lexer) : Option Lexer := do
  let outerKey ← refresh? lexer.cursor lexer.outerKey
  let flowKeys ← lexer.flowKeys.mapM (refresh? lexer.cursor)
  some { lexer with outerKey, flowKeys }

/-- The tokens that close the block collections deeper than a column, and the columns of the
others. -/
def closing (column : Nat) : List Nat → List Token × List Nat
  | [] => ([], [])
  | inner :: outer =>
    if column < inner then
      let (tokens, left) := closing column outer
      (.blockEnd :: tokens, left)
    else ([], inner :: outer)

/-- Closes the block collections deeper than a column. -/
def closeTo (lexer : Lexer) (column : Nat) : Lexer :=
  if lexer.inFlow then lexer
  else
    let (tokens, columns) := closing column lexer.columns
    { lexer with tokens := tokens ++ lexer.tokens, columns }

/-- Closes all block collections. -/
def closeAll (lexer : Lexer) : Lexer :=
  if lexer.inFlow then lexer
  else
    { lexer with
      tokens := List.replicate lexer.columns.length .blockEnd ++ lexer.tokens
      columns := [] }

/-- Opens a block collection, behind the first `position` tokens, if the column is deeper than those
of the open ones. -/
def openAt (lexer : Lexer) (column position : Nat) (token : Token) : Lexer :=
  if lexer.inFlow || column < lexer.base then lexer
  else { lexer.emitAt position token with columns := column :: lexer.columns }

/-- Opens a block collection here. -/
def openHere (lexer : Lexer) (token : Token) : Lexer :=
  lexer.openAt lexer.cursor.column lexer.tokens.length token

/-- Adds a token that is so many characters long. -/
def emitHere (lexer : Lexer) (token : Token) (length : Nat) : Lexer :=
  (lexer.emit token).moveTo (lexer.cursor.advance length)

/-- Skips blanks, comments and breaks. A tab is no blank where a key may begin outside of flow
collections. The first number bounds how many lines are skipped. -/
def skipToToken : Nat → Lexer → Lexer
  | 0, lexer => lexer
  | bound + 1, lexer =>
    let atMark := lexer.cursor.column == 0 && lexer.cursor.peek 0 == some (Char.ofNat 0xfeff)
    let cursor := if atMark then lexer.cursor.advance 1 else lexer.cursor
    let tabs := lexer.inFlow || !lexer.keyAllowed
    let cursor := (cursor.skipWhile fun c => c == ' ' || (tabs && c == '\t')).skipComment
    if (cursor.peek 0).any isBreak then
      let lexer := lexer.moveTo cursor.readBreak.2
      skipToToken bound (if lexer.inFlow then lexer else lexer.allowKey true)
    else lexer.moveTo cursor

/-- A directive. -/
def readDirective? (lexer : Lexer) : Option Lexer := do
  let lexer ← lexer.closeAll.dropCandidate?
  let (token, next) ← Token.readDirective? lexer.cursor
  some (((lexer.allowKey false).emit token).moveTo next)

/-- The beginning or the end of a document. -/
def readMarker? (lexer : Lexer) (token : Token) : Option Lexer := do
  let lexer ← lexer.closeAll.dropCandidate?
  some ((lexer.allowKey false).emitHere token 3)

/-- The opening of a flow collection. -/
def readFlowStart? (lexer : Lexer) (token : Token) : Option Lexer := do
  let lexer ← lexer.saveCandidate?
  let lexer := { lexer with flowKeys := none :: lexer.flowKeys }
  some ((lexer.allowKey true).emitHere token 1)

/-- The closing of a flow collection. -/
def readFlowEnd? (lexer : Lexer) (token : Token) : Option Lexer := do
  let lexer ← lexer.dropCandidate?
  let lexer := { lexer with flowKeys := lexer.flowKeys.drop 1 }
  some ((lexer.allowKey false).emitHere token 1)

/-- A comma between the entries of a flow collection. -/
def readFlowEntry? (lexer : Lexer) : Option Lexer := do
  let lexer ← lexer.dropCandidate?
  some ((lexer.allowKey true).emitHere .flowEntry 1)

/-- The indicator of an entry of a block sequence. -/
def readBlockEntry? (lexer : Lexer) : Option Lexer := do
  if !lexer.inFlow && !lexer.keyAllowed then none
  else
    let lexer ← (lexer.openHere .blockSequenceStart).dropCandidate?
    some ((lexer.allowKey true).emitHere .blockEntry 1)

/-- The indicator of a key. -/
def readKey? (lexer : Lexer) : Option Lexer := do
  if !lexer.inFlow && !lexer.keyAllowed then none
  else
    let lexer ← (lexer.openHere .blockMappingStart).dropCandidate?
    some ((lexer.allowKey (!lexer.inFlow)).emitHere .key 1)

/-- The indicator of a value, behind a candidate that is now known to be a key, or on its own. -/
def readValue? (lexer : Lexer) : Option Lexer :=
  match lexer.candidate with
  | some key =>
    let lexer := lexer.emitAt key.position .key
    let lexer := lexer.openAt key.column key.position .blockMappingStart
    some (((lexer.setCandidate none).allowKey false).emitHere .value 1)
  | none =>
    if !lexer.inFlow && !lexer.keyAllowed then none
    else
      let lexer := lexer.openHere .blockMappingStart
      some ((lexer.allowKey (!lexer.inFlow)).emitHere .value 1)

/-- An anchor or an alias. -/
def readAnchor? (lexer : Lexer) (token : List Char → Token) : Option Lexer := do
  let lexer ← lexer.saveCandidate?
  let (name, next) ← Token.readAnchor? lexer.cursor
  some (((lexer.allowKey false).emit (token name)).moveTo next)

/-- A tag. -/
def readTag? (lexer : Lexer) : Option Lexer := do
  let lexer ← lexer.saveCandidate?
  let (token, next) ← Token.readTag? lexer.inFlow lexer.cursor
  some (((lexer.allowKey false).emit token).moveTo next)

/-- A block scalar. -/
def readBlockScalar? (lexer : Lexer) (literal : Bool) : Option Lexer := do
  let lexer ← lexer.dropCandidate?
  let (text, next) ← Block.read? literal lexer.base lexer.cursor
  some (((lexer.allowKey true).emit (.scalar text false)).moveTo next)

/-- A quoted scalar. -/
def readQuoted? (lexer : Lexer) (quote : Quoted.Quote) : Option Lexer := do
  let lexer ← lexer.saveCandidate?
  let (text, next) ← Quoted.read? quote lexer.cursor
  some (((lexer.allowKey false).emit (.scalar text false)).moveTo next)

/-- A plain scalar. A key may begin behind it if it ends at the beginning of a line. -/
def readPlain? (lexer : Lexer) : Option Lexer := do
  let lexer ← lexer.saveCandidate?
  let (text, broken, next) ← Plain.read? lexer.inFlow lexer.base lexer.cursor
  some (((lexer.allowKey broken).emit (.scalar text true)).moveTo next)

/-- The characters that no plain scalar begins with, unless something else says so. -/
def isIndicator (c : Char) : Bool :=
  ['-', '?', ':', ',', '[', ']', '\x7b', '\x7d', '#', '&', '*', '!', '|', '>', '\'', '"', '%', '@',
    '\x60'].contains c

/-- Whether a plain scalar begins with a character in front of another one. -/
def beginsPlain (inFlow : Bool) (c : Char) (next : Option Char) : Bool :=
  (!endsWord (some c) && !isIndicator c) ||
    (c == '-' && !(next.any isSpaceOrTab)) ||
    (!inFlow && (c == '?' || c == ':') && !endsWord next)

/-- The token that begins with a character, in front of another one. -/
def readToken? (lexer : Lexer) (c : Char) (next : Option Char) : Option Lexer :=
  if lexer.cursor.column == 0 && c == '%' then lexer.readDirective?
  else if lexer.cursor.isAtMarker '-' then lexer.readMarker? .documentStart
  else if lexer.cursor.isAtMarker '.' then lexer.readMarker? .documentEnd
  else if c == '[' then lexer.readFlowStart? .flowSequenceStart
  else if c == '\x7b' then lexer.readFlowStart? .flowMappingStart
  else if c == ']' then lexer.readFlowEnd? .flowSequenceEnd
  else if c == '\x7d' then lexer.readFlowEnd? .flowMappingEnd
  else if c == ',' then lexer.readFlowEntry?
  else if c == '-' && endsWord next then lexer.readBlockEntry?
  else if c == '?' && (lexer.inFlow || endsWord next) then lexer.readKey?
  else if c == ':' && (lexer.inFlow || endsWord next) then lexer.readValue?
  else if c == '*' then lexer.readAnchor? .alias
  else if c == '&' then lexer.readAnchor? .anchor
  else if c == '!' then lexer.readTag?
  else if c == '|' && !lexer.inFlow then lexer.readBlockScalar? true
  else if c == '>' && !lexer.inFlow then lexer.readBlockScalar? false
  else if c == '\'' then lexer.readQuoted? .single
  else if c == '"' then lexer.readQuoted? .double
  else if beginsPlain lexer.inFlow c next then lexer.readPlain?
  else none

/-- The tokens up to the end of the document. The first number bounds how many are read. -/
def run? : Nat → Lexer → Option (List Token)
  | 0, _ => none
  | bound + 1, lexer => do
    let lexer ← (lexer.skipToToken (lexer.cursor.rest.length + 1)).dropStale?
    let lexer := lexer.closeTo lexer.cursor.column
    match lexer.cursor.rest with
    | [] => do
      let lexer ← lexer.closeAll.dropCandidate?
      some lexer.tokens.reverse
    | c :: rest => do run? bound (← lexer.readToken? c rest.head?)

end Lexer

/-- The tokens of a document. -/
def Token.ofText? (text : List Char) : Option (List Token) :=
  if text.all isPermitted then Lexer.run? (text.length + 1) { cursor := { rest := text } } else none

end RequestChain.Yaml
