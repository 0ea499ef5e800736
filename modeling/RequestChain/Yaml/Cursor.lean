/-! # Places in a document

A cursor is what is left of a document, with its position. Lines end with one of five breaks; a
carriage return and a line feed in a row are one break. All breaks are read as line feeds, except
for the two separators of lines and paragraphs, which stand for themselves.
-/

namespace RequestChain.Yaml

/-- The next line character of the control characters. -/
def nextLine : Char := Char.ofNat 0x85

/-- The separators of lines and of paragraphs. -/
def isSeparator (c : Char) : Bool := c.toNat == 0x2028 || c.toNat == 0x2029

/-- The characters that end a line. -/
def isBreak (c : Char) : Bool :=
  c == '\n' || c == '\r' || c == nextLine || isSeparator c

/-- A space or a tab. -/
def isSpaceOrTab (c : Char) : Bool := c == ' ' || c == '\t'

/-- The characters of anchors, of directives and of the handles of tags. -/
def isNameChar (c : Char) : Bool := c.isAlphanum || c == '-' || c == '_'

/-- The characters that a document may hold. -/
def isPermitted (c : Char) : Bool :=
  c == '\t' || c == '\n' || c == '\r' || (' ' ≤ c && c ≤ '~') || c == nextLine ||
    (0xa0 ≤ c.toNat && c.toNat ≤ 0xfffd) || 0x10000 ≤ c.toNat

/-- Whether a word ends in front of a character, or at the end of the document. -/
def endsWord : Option Char → Bool
  | none => true
  | some c => isSpaceOrTab c || isBreak c

/-- Whether a line ends in front of a character, or at the end of the document. -/
def endsLine : Option Char → Bool
  | none => true
  | some c => isBreak c

/-- What is left of a document, and how much lies behind. -/
structure Cursor where
  rest : List Char
  /-- Characters behind the cursor. -/
  index : Nat := 0
  /-- Breaks behind the cursor. -/
  line : Nat := 0
  /-- Characters between the last break and the cursor. -/
  column : Nat := 0
  deriving Repr

namespace Cursor

/-- The character that is so many places ahead. -/
def peek (cursor : Cursor) (places : Nat) : Option Char :=
  cursor.rest[places]?

/-- Some places further in the same line. -/
def advance (cursor : Cursor) (places : Nat) : Cursor :=
  { cursor with
    rest := cursor.rest.drop places
    index := cursor.index + places
    column := cursor.column + places }

/-- Behind the characters of a kind. -/
def skipWhile (kind : Char → Bool) (cursor : Cursor) : Cursor :=
  cursor.advance (cursor.rest.takeWhile kind).length

/-- Behind a comment, if there is one. -/
def skipComment (cursor : Cursor) : Cursor :=
  if cursor.peek 0 = some '#' then cursor.skipWhile (!isBreak ·) else cursor

/-- At the beginning of the next line, so many characters further. -/
def nextLineAfter (cursor : Cursor) (places : Nat) : Cursor :=
  { rest := cursor.rest.drop places
    index := cursor.index + places
    line := cursor.line + 1
    column := 0 }

/-- The text of a break, and the place behind it. -/
def readBreak (cursor : Cursor) : List Char × Cursor :=
  match cursor.rest with
  | '\r' :: '\n' :: _ => (['\n'], cursor.nextLineAfter 2)
  | c :: _ =>
    if isSeparator c then ([c], cursor.nextLineAfter 1)
    else if isBreak c then (['\n'], cursor.nextLineAfter 1)
    else ([], cursor)
  | [] => ([], cursor)

/-- Three characters at the beginning of a line that stand alone. -/
def isAtMarker (cursor : Cursor) (mark : Char) : Bool :=
  cursor.column == 0 && cursor.peek 0 == some mark && cursor.peek 1 == some mark &&
    cursor.peek 2 == some mark && endsWord (cursor.peek 3)

/-- The beginning or the end of a document. -/
def isAtDocumentMarker (cursor : Cursor) : Bool :=
  cursor.isAtMarker '-' || cursor.isAtMarker '.'

/-- Behind blanks, a comment and a break, if there is nothing else on the line. -/
def finishLine? (cursor : Cursor) : Option Cursor :=
  let cursor := (cursor.skipWhile isSpaceOrTab).skipComment
  if endsLine (cursor.peek 0) then some cursor.readBreak.2 else none

end Cursor

end RequestChain.Yaml
