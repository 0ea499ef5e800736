import RequestChain.Text.FormEncoding
import RequestChain.Yaml.Token.Gap

/-! # Quoted scalars

Between single quotes a quote is written twice and everything else stands for itself. Between double
quotes a backslash begins an escape, and a break behind a backslash is dropped together with the
blanks of the next line. Breaks are folded in both.
-/

namespace RequestChain.Yaml.Quoted

/-- The two kinds of quotes. -/
inductive Quote where
  | single
  | double
  deriving DecidableEq, Repr

/-- The quote itself. -/
def Quote.char : Quote → Char
  | single => '\''
  | double => '"'

/-- The character that an escape of one character stands for. -/
def simpleEscape? : Char → Option Char
  | '0' => some (Char.ofNat 0)
  | 'a' => some (Char.ofNat 7)
  | 'b' => some (Char.ofNat 8)
  | 't' => some '\t'
  | '\t' => some '\t'
  | 'n' => some '\n'
  | 'v' => some (Char.ofNat 11)
  | 'f' => some (Char.ofNat 12)
  | 'r' => some '\r'
  | 'e' => some (Char.ofNat 27)
  | ' ' => some ' '
  | '"' => some '"'
  | '/' => some '/'
  | '\\' => some '\\'
  | 'N' => some nextLine
  | '_' => some (Char.ofNat 0xa0)
  | 'L' => some (Char.ofNat 0x2028)
  | 'P' => some (Char.ofNat 0x2029)
  | _ => none

/-- How many hexadecimal digits follow the letter of an escape by code. -/
def codeLength? : Char → Option Nat
  | 'x' => some 2
  | 'u' => some 4
  | 'U' => some 8
  | _ => none

/-- The value of some hexadecimal digits. -/
def codeOf? (digits : List Char) : Option Nat :=
  digits.foldlM (fun code digit => (Text.hexValue? digit).map (code * 16 + ·)) 0

/-- The character of a code, if there is one. -/
def charOf? (code : Nat) : Option Char :=
  if code.isValidChar then some (Char.ofNat code) else none

/-- The character behind a backslash, and how long the escape is without the backslash. -/
def escape? : List Char → Option (Char × Nat)
  | [] => none
  | letter :: rest =>
    match simpleEscape? letter, codeLength? letter with
    | some c, _ => some (c, 1)
    | none, some length => do
      let digits := rest.take length
      if digits.length < length then none
      else some (← charOf? (← codeOf? digits), length + 1)
    | none, none => none

/-- The characters of a scalar up to white space, to the closing quote or to an escaped break, and
the place behind; also whether there was such a break. The first number bounds how many are
read. -/
def readWord? (quote : Quote) : Nat → Cursor → Option (List Char × Bool × Cursor)
  | 0, _ => none
  | bound + 1, cursor =>
    match cursor.rest with
    | [] => some ([], false, cursor)
    | c :: rest =>
      if endsWord (some c) then some ([], false, cursor)
      else if quote == .single && c == '\'' && rest.head? == some '\'' then do
        let (word, escaped, next) ← readWord? quote bound (cursor.advance 2)
        some ('\'' :: word, escaped, next)
      else if c == quote.char then some ([], false, cursor)
      else if quote == .double && c == '\\' then
        if rest.head?.any isBreak then some ([], true, (cursor.advance 1).readBreak.2)
        else do
          let (escapedChar, length) ← escape? rest
          let (word, escaped, next) ← readWord? quote bound (cursor.advance (length + 1))
          some (escapedChar :: word, escaped, next)
      else do
        let (word, escaped, next) ← readWord? quote bound (cursor.advance 1)
        some (c :: word, escaped, next)

/-- The text of a scalar behind its opening quote, and the place behind the closing one. The first
number bounds how many words are read. -/
def readFrom? (quote : Quote) : Nat → List Char → Cursor → Option (List Char × Cursor)
  | 0, _, _ => none
  | bound + 1, text, cursor =>
    if cursor.isAtDocumentMarker || cursor.rest.isEmpty then none
    else do
      let (word, escaped, next) ← readWord? quote (cursor.rest.length + 1) cursor
      let text := text ++ word
      if next.peek 0 == some quote.char then some (text, next.advance 1)
      else
        let (gap, next) ← Gap.read? 0 (next.rest.length + 1) { broken := escaped } next
        readFrom? quote bound (text ++ gap.text) next

/-- The quoted scalar at a place. -/
def read? (quote : Quote) (cursor : Cursor) : Option (List Char × Cursor) :=
  readFrom? quote (cursor.rest.length + 1) [] (cursor.advance 1)

end RequestChain.Yaml.Quoted
