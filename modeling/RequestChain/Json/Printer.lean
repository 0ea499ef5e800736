import RequestChain.Json.Basic

/-! # Printing JSON

The compact form has no blanks. The indented form puts every item and every field on a line of its
own, two spaces deeper than its parent. Both print the fields of an object in the order in which
they are held.
-/

namespace RequestChain.Json

/-- Numbers with a fraction are positional from `0.00001` up to, not including, `1e+16`; whole ones
end in `.0`. -/
def numberFormat : Decimal.NumberFormat :=
  { leastPositional := -5, greatestPositional := 15, wholeSuffix := ".0", exponentPlus := "+" }

/-- The text of a number. -/
def numberText : JsonNumber → String
  | .whole value => toString value
  | .real value => value.format numberFormat

/-- A control character by its code in four hexadecimal digits. -/
def codeEscape (c : Char) : List Char :=
  let code := c.toNat
  ['\\', 'u', '0', '0', Nat.digitChar (code / 16), Nat.digitChar (code % 16)]

/-- How a character is written inside quotes. -/
def escapeChar (c : Char) : List Char :=
  if c = '"' then ['\\', '"']
  else if c = '\\' then ['\\', '\\']
  else if c.toNat < 0x20 then
    match c.toNat with
    | 8 => ['\\', 'b']
    | 9 => ['\\', 't']
    | 10 => ['\\', 'n']
    | 12 => ['\\', 'f']
    | 13 => ['\\', 'r']
    | _ => codeEscape c
  else [c]

/-- A text in quotes. -/
def quote (text : String) : String :=
  String.ofList ('"' :: text.toList.flatMap escapeChar ++ ['"'])

mutual

/-- The compact form. -/
def compact : Json → String
  | .null => "null"
  | .bool true => "true"
  | .bool false => "false"
  | .number value => numberText value
  | .string text => quote text
  | .array items => "[" ++ compactItems items ++ "]"
  | .object fields => "\x7b" ++ compactFields fields ++ "\x7d"

/-- Items with commas between them. -/
def compactItems : List Json → String
  | [] => ""
  | [item] => item.compact
  | item :: rest => item.compact ++ "," ++ compactItems rest

/-- Fields with commas between them. -/
def compactFields : List (String × Json) → String
  | [] => ""
  | [(name, value)] => quote name ++ ":" ++ value.compact
  | (name, value) :: rest => quote name ++ ":" ++ value.compact ++ "," ++ compactFields rest

end

/-- A new line with `depth` levels of indentation. -/
def lineBreak (depth : Nat) : String :=
  String.ofList ('\n' :: List.replicate (2 * depth) ' ')

mutual

/-- The indented form of a value that stands `depth` levels deep. -/
def indented (depth : Nat) : Json → String
  | .array [] => "[]"
  | .array (item :: rest) =>
    "[" ++ indentedItems (depth + 1) (item :: rest) ++ lineBreak depth ++ "]"
  | .object [] => "\x7b\x7d"
  | .object (field :: rest) =>
    "\x7b" ++ indentedFields (depth + 1) (field :: rest) ++ lineBreak depth ++ "\x7d"
  | .null => "null"
  | .bool true => "true"
  | .bool false => "false"
  | .number value => numberText value
  | .string text => quote text

/-- Each item on a line of its own. -/
def indentedItems (depth : Nat) : List Json → String
  | [] => ""
  | [item] => lineBreak depth ++ indented depth item
  | item :: rest => lineBreak depth ++ indented depth item ++ "," ++ indentedItems depth rest

/-- Each field on a line of its own. -/
def indentedFields (depth : Nat) : List (String × Json) → String
  | [] => ""
  | [(name, value)] => lineBreak depth ++ quote name ++ ": " ++ indented depth value
  | (name, value) :: rest =>
    lineBreak depth ++ quote name ++ ": " ++ indented depth value ++ "," ++
      indentedFields depth rest

end

/-- The indented form. -/
def pretty (value : Json) : String :=
  value.indented 0

end RequestChain.Json
