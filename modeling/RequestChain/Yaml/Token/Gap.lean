import RequestChain.Yaml.Cursor

/-! # White space inside scalars

Blanks between two words of a scalar stay as they are. Where the words stand on different lines, the
first break becomes a space, unless more breaks follow, which stay; blanks around breaks are
dropped.
-/

namespace RequestChain.Yaml

/-- The white space between two words. -/
structure Gap where
  /-- The blanks, as long as there is no break. -/
  blanks : List Char := []
  /-- Whether the words are on different lines. -/
  broken : Bool := false
  /-- The text of the first break; a break that was escaped has none. -/
  firstBreak : List Char := []
  /-- The text of the breaks behind it. -/
  laterBreaks : List Char := []
  deriving Repr, Inhabited

/-- What a gap comes to in the text of the scalar. -/
def Gap.text (gap : Gap) : List Char :=
  if !gap.broken then gap.blanks
  else if gap.firstBreak == ['\n'] then
    if gap.laterBreaks.isEmpty then [' '] else gap.laterBreaks
  else gap.firstBreak ++ gap.laterBreaks

/-- Reads blanks and breaks. Behind a break a tab must not stand in front of the column
`leastColumn`. The first number bounds how many are read. -/
def Gap.read? (leastColumn : Nat) : Nat → Gap → Cursor → Option (Gap × Cursor)
  | 0, _, _ => none
  | bound + 1, gap, cursor =>
    match cursor.rest with
    | [] => some (gap, cursor)
    | c :: _ =>
      if isSpaceOrTab c then
        if !gap.broken then
          read? leastColumn bound { gap with blanks := gap.blanks ++ [c] } (cursor.advance 1)
        else if c == '\t' && cursor.column < leastColumn then none
        else read? leastColumn bound gap (cursor.advance 1)
      else if isBreak c then
        let (text, next) := cursor.readBreak
        if gap.broken then
          read? leastColumn bound { gap with laterBreaks := gap.laterBreaks ++ text } next
        else read? leastColumn bound { broken := true, firstBreak := text } next
      else some (gap, cursor)

end RequestChain.Yaml
