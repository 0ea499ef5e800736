import RequestChain.Text.FormEncoding
import RequestChain.Yaml.Cursor
import RequestChain.Yaml.Token

/-! # Tags, anchors and directives

A tag is written in full between angle brackets, or as a handle and a suffix. Percent signs in a tag
begin octets by their hexadecimal digits, which must be in the order of UTF-8.
-/

namespace RequestChain.Yaml

/-- The characters of a tag. Between angle brackets and in directives also those of flow
collections. -/
def isUriChar (verbatim : Bool) (c : Char) : Bool :=
  isNameChar c || [';', '/', '?', ':', '@', '&', '=', '+', '$', '.', '!', '~', '*', '\'', '(',
    ')'].contains c || (verbatim && [',', '[', ']'].contains c)

/-- The octet behind a percent sign, and the text behind it. -/
def readOctet? : List Char → Option (Nat × List Char)
  | '%' :: high :: low :: rest => do
    some ((← Text.hexValue? high) * 16 + (← Text.hexValue? low), rest)
  | _ => none

/-- How many octets follow a first octet. -/
def followers? (lead : Nat) : Option Nat :=
  if lead < 0x80 then some 0
  else if 0xc0 ≤ lead ∧ lead < 0xe0 then some 1
  else if 0xe0 ≤ lead ∧ lead < 0xf0 then some 2
  else if 0xf0 ≤ lead ∧ lead < 0xf8 then some 3
  else none

/-- So many octets that continue a character. -/
def readFollowers? : Nat → List Char → Option (List UInt8 × List Char)
  | 0, text => some ([], text)
  | count + 1, text => do
    let (octet, rest) ← readOctet? text
    if octet < 0x80 ∨ 0xc0 ≤ octet then none
    else
      let (octets, rest) ← readFollowers? count rest
      some (octet.toUInt8 :: octets, rest)

/-- The octets of a tag, and the text behind them. The first number bounds how many are read. -/
def readUri? (verbatim : Bool) : Nat → List Char → Option (List UInt8 × List Char)
  | 0, _ => none
  | _ + 1, [] => some ([], [])
  | bound + 1, c :: text =>
    if c == '%' then do
      let (lead, rest) ← readOctet? (c :: text)
      let (octets, rest) ← readFollowers? (← followers? lead) rest
      let (others, rest) ← readUri? verbatim bound rest
      some (lead.toUInt8 :: octets ++ others, rest)
    else if isUriChar verbatim c then do
      let (octets, rest) ← readUri? verbatim bound text
      some (c.toNat.toUInt8 :: octets, rest)
    else some ([], c :: text)

/-- The place where a text begins that the rest of the line ends with. -/
def Cursor.moveTo (cursor : Cursor) (rest : List Char) : Cursor :=
  cursor.advance (cursor.rest.length - rest.length)

/-- The octets of a tag at a place, and the place behind them. -/
def Cursor.readUri? (cursor : Cursor) (verbatim : Bool) : Option (List UInt8 × Cursor) :=
  (Yaml.readUri? verbatim (cursor.rest.length + 1) cursor.rest).map fun (octets, rest) =>
    (octets, cursor.moveTo rest)

/-- An exclamation mark, name characters, and possibly another exclamation mark. -/
def Cursor.readHandle? (cursor : Cursor) : Option (List Char × Cursor) :=
  match cursor.rest with
  | '!' :: rest =>
    let name := rest.takeWhile isNameChar
    let closing := if rest[name.length]? = some '!' then ['!'] else []
    let handle := '!' :: name ++ closing
    some (handle, cursor.advance handle.length)
  | _ => none

/-- A handle is closed by an exclamation mark that is not its first one. -/
def isClosedHandle (handle : List Char) : Bool :=
  2 ≤ handle.length && handle.getLast? == some '!'

namespace Token

/-- A handle and a suffix, or a whole tag, without regard to what follows. -/
def readTagParts? (cursor : Cursor) : Option (Token × Cursor) :=
  if cursor.peek 1 == some '<' then do
    let (suffix, next) ← (cursor.advance 2).readUri? true
    if suffix.isEmpty || next.peek 0 != some '>' then none
    else some (.tag [] suffix, next.advance 1)
  else do
    let (handle, next) ← cursor.readHandle?
    let (suffix, next) ← next.readUri? false
    if isClosedHandle handle then
      if suffix.isEmpty then none else some (.tag handle suffix, next)
    else
      let suffix := (handle.drop 1).map (·.toNat.toUInt8) ++ suffix
      if suffix.isEmpty then some (.tag [] ['!'.toNat.toUInt8], next)
      else some (.tag ['!'] suffix, next)

/-- The tag at a place. -/
def readTag? (inFlow : Bool) (cursor : Cursor) : Option (Token × Cursor) := do
  let (token, next) ← readTagParts? cursor
  if (inFlow && next.peek 0 == some ',') || endsWord (next.peek 0) then some (token, next)
  else none

/-- The characters that may stand directly behind the name of an anchor. -/
def endsAnchor (c : Char) : Bool :=
  endsWord (some c) || ['?', ':', ',', ']', '\x7d', '%', '@', '\x60'].contains c

/-- The name of an anchor or of an alias behind its indicator. -/
def readAnchor? (cursor : Cursor) : Option (List Char × Cursor) :=
  let name := (cursor.rest.drop 1).takeWhile isNameChar
  let next := cursor.advance (name.length + 1)
  if name.isEmpty || !((next.peek 0).all endsAnchor) then none else some (name, next)

/-- A part of a version, of at most nine digits. -/
def readVersionNumber? (cursor : Cursor) : Option (Nat × Cursor) :=
  let digits := cursor.rest.takeWhile Char.isDigit
  if digits.isEmpty || 9 < digits.length then none
  else some (digits.foldl (fun n digit => n * 10 + (digit.toNat - 0x30)) 0,
    cursor.advance digits.length)

/-- A version. -/
def readVersion? (cursor : Cursor) : Option (Token × Cursor) := do
  let (major, next) ← readVersionNumber? cursor
  if next.peek 0 != some '.' then none
  else
    let (minor, next) ← readVersionNumber? (next.advance 1)
    some (.versionDirective major minor, next)

/-- A handle and what it stands for. -/
def readTagDirective? (cursor : Cursor) : Option (Token × Cursor) := do
  let (handle, next) ← cursor.readHandle?
  if !(handle == ['!'] || isClosedHandle handle) || !((next.peek 0).any isSpaceOrTab) then none
  else
    let (expansion, next) ← (next.skipWhile isSpaceOrTab).readUri? true
    if expansion.isEmpty || !endsWord (next.peek 0) then none
    else some (.tagDirective handle expansion, next)

/-- The directive behind a percent sign, to the end of its line. -/
def readDirective? (cursor : Cursor) : Option (Token × Cursor) := do
  let cursor := cursor.advance 1
  let name := cursor.rest.takeWhile isNameChar
  let next := cursor.advance name.length
  if name.isEmpty || !endsWord (next.peek 0) then none
  else
    let next := next.skipWhile isSpaceOrTab
    let (token, next) ←
      if name == ['Y', 'A', 'M', 'L'] then readVersion? next
      else if name == ['T', 'A', 'G'] then readTagDirective? next
      else none
    some (token, ← next.finishLine?)

end Token

end RequestChain.Yaml
