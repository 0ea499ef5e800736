import RequestChain.Json.Reader
import RequestChain.Yaml.Cursor

/-! # Block scalars

A block scalar is a header and the indented lines below it. A literal one keeps its breaks; a folded
one joins lines that do not begin with a blank. What becomes of the last break and of the empty
lines behind it is said in the header.
-/

namespace RequestChain.Yaml.Block

/-- What becomes of the breaks at the end. -/
inductive Chomping where
  /-- All are dropped. -/
  | strip
  /-- The first one stays. -/
  | clip
  /-- All stay. -/
  | keep
  deriving DecidableEq, Repr, Inhabited

/-- The header of a block scalar. -/
structure Header where
  chomping : Chomping := .clip
  /-- How much deeper than their surroundings the lines are indented, if it is said. -/
  increment : Option Nat := none
  deriving Repr, Inhabited

/-- The chomping that a sign stands for. -/
def chomping? : Option Char → Option Chomping
  | some '+' => some .keep
  | some '-' => some .strip
  | _ => none

/-- The header behind the indicator, and the place behind it. -/
def readHeader? (cursor : Cursor) : Option (Header × Cursor) :=
  let increment? (c : Option Char) : Option Nat :=
    match c with
    | some c => if c.isDigit then some (Json.digitValue c) else none
    | none => none
  let found : Header × Nat :=
    match chomping? (cursor.peek 0), increment? (cursor.peek 0) with
    | some chomping, _ =>
      match increment? (cursor.peek 1) with
      | some increment => (⟨chomping, some increment⟩, 2)
      | none => (⟨chomping, none⟩, 1)
    | none, some increment =>
      match chomping? (cursor.peek 1) with
      | some chomping => (⟨chomping, some increment⟩, 2)
      | none => (⟨.clip, some increment⟩, 1)
    | none, none => ({}, 0)
  if found.1.increment = some 0 then none
  else (cursor.advance found.2).finishLine?.map fun next => (found.1, next)

/-- Skips the indentation of a line. Without a known indentation all spaces belong to it. -/
def skipIndentation (indentation : Option Nat) (cursor : Cursor) : Cursor :=
  let spaces := (cursor.rest.takeWhile (· == ' ')).length
  match indentation with
  | none => cursor.advance spaces
  | some columns => cursor.advance (min spaces (columns - cursor.column))

/-- The breaks of empty lines, the column of the deepest of them or of the line behind them, and the
place in that line. The first number bounds how many are read. -/
def readEmptyLines? (indentation : Option Nat) :
    Nat → List Char → Nat → Cursor → Option (List Char × Nat × Cursor)
  | 0, _, _, _ => none
  | bound + 1, breaks, deepest, cursor =>
    let cursor := skipIndentation indentation cursor
    let deepest := max deepest cursor.column
    match cursor.peek 0 with
    | none => some (breaks, deepest, cursor)
    | some c =>
      if c == '\t' && indentation.all (cursor.column < ·) then none
      else if isBreak c then
        let (text, next) := cursor.readBreak
        readEmptyLines? indentation bound (breaks ++ text) deepest next
      else some (breaks, deepest, cursor)

/-- The lines read so far, the text of the break behind them, and that of the empty lines behind
it. -/
structure Progress where
  text : List Char := []
  lastBreak : List Char := []
  emptyLines : List Char := []
  /-- Whether the last line begins with a blank. -/
  afterBlank : Bool := false
  deriving Repr, Inhabited

/-- The lines at an indentation, and the place behind them. The first number bounds how many are
read. -/
def readLines? (literal : Bool) (indentation : Nat) :
    Nat → Progress → Cursor → Option (Progress × Cursor)
  | 0, _, _ => none
  | bound + 1, progress, cursor =>
    if cursor.column != indentation || cursor.rest.isEmpty then some (progress, cursor)
    else do
      let beginsBlank := (cursor.peek 0).any isSpaceOrTab
      let folds := !literal && progress.lastBreak == ['\n'] && !progress.afterBlank && !beginsBlank
      let joint :=
        if !folds then progress.lastBreak
        else if progress.emptyLines.isEmpty then [' ']
        else []
      let line := cursor.rest.takeWhile (!isBreak ·)
      let (lastBreak, next) := (cursor.advance line.length).readBreak
      let (emptyLines, _, next) ←
        readEmptyLines? (some indentation) (next.rest.length + 1) [] 0 next
      readLines? literal indentation bound
        { text := progress.text ++ joint ++ progress.emptyLines ++ line
          lastBreak, emptyLines, afterBlank := beginsBlank } next

/-- The text of all lines, with the breaks at the end that stay. -/
def Progress.chomped (progress : Progress) : Chomping → List Char
  | .strip => progress.text
  | .clip => progress.text ++ progress.lastBreak
  | .keep => progress.text ++ progress.lastBreak ++ progress.emptyLines

/-- The block scalar behind an indicator, where `base` is the first column that is deeper than the
surroundings. -/
def read? (literal : Bool) (base : Nat) (cursor : Cursor) : Option (List Char × Cursor) := do
  let (header, next) ← readHeader? (cursor.advance 1)
  let declared := header.increment.map (base - 1 + ·)
  let (emptyLines, deepest, next) ← readEmptyLines? declared (next.rest.length + 1) [] 0 next
  let indentation := declared.getD (max (max deepest base) 1)
  let (progress, next) ←
    readLines? literal indentation (next.rest.length + 1) { emptyLines } next
  some (progress.chomped header.chomping, next)

end RequestChain.Yaml.Block
