import RequestChain.Yaml.Token.Gap

/-! # Plain scalars

A plain scalar has no quotes. It ends in front of a comment, a colon that ends a word, a document
marker and, in flow collections, in front of brackets and commas; outside of them also in front of a
line that is not indented enough.
-/

namespace RequestChain.Yaml.Plain

/-- The characters that structure flow collections. -/
def isFlowIndicator (c : Char) : Bool :=
  c == ',' || c == '[' || c == ']' || c == '\x7b' || c == '\x7d'

/-- Whether a scalar ends within a word, in front of the character `c`. -/
def endsInside (inFlow : Bool) (c : Char) (next : Option Char) : Bool :=
  (c == ':' && endsWord next) || (inFlow && isFlowIndicator c)

/-- A colon in front of an indicator of flow collections is neither text nor a sign. -/
def isStrayColon (inFlow : Bool) (c : Char) (next : Option Char) : Bool :=
  inFlow && c == ':' && next.any fun d => isFlowIndicator d || d == '?'

/-- The characters up to the end of a word or of the scalar. -/
def readWord? (inFlow : Bool) : List Char → Option (List Char)
  | [] => some []
  | c :: rest =>
    if endsWord (some c) then some []
    else if isStrayColon inFlow c rest.head? then none
    else if endsInside inFlow c rest.head? then some []
    else (readWord? inFlow rest).map (c :: ·)

/-- The text of a scalar, whether a break was read behind its last word, and the place behind. The
first number bounds how many words are read. -/
def readFrom? (inFlow : Bool) (leastColumn : Nat) :
    Nat → Gap → List Char → Cursor → Option (List Char × Bool × Cursor)
  | 0, _, _, _ => none
  | bound + 1, gap, text, cursor =>
    if cursor.isAtDocumentMarker || cursor.peek 0 == some '#' then
      some (text, gap.broken, cursor)
    else do
      let word ← readWord? inFlow cursor.rest
      let next := cursor.advance word.length
      let text := if word.isEmpty then text else text ++ gap.text ++ word
      let gap := if word.isEmpty then gap else {}
      if next.rest.isEmpty || !endsWord (next.peek 0) then some (text, gap.broken, next)
      else
        let (gap, next) ← Gap.read? leastColumn (next.rest.length + 1) gap next
        if !inFlow && next.column < leastColumn then some (text, gap.broken, next)
        else readFrom? inFlow leastColumn bound gap text next

/-- The plain scalar at a place. -/
def read? (inFlow : Bool) (leastColumn : Nat) (cursor : Cursor) :
    Option (List Char × Bool × Cursor) :=
  readFrom? inFlow leastColumn (cursor.rest.length + 1) {} [] cursor

end RequestChain.Yaml.Plain
