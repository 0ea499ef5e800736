import RequestChain.Text.CaseTable

/-! # Letter case

Upper and lower case of whole texts by the full mappings of Unicode. Upper case is a mapping of
single characters; lower case depends on the neighbours at one place only, the sigma that ends a
word.
-/

namespace RequestChain.Text

/-- The upper case of one character, which may have several. -/
def upperChar (c : Char) : List Char :=
  if c.toNat < 0x80 then [c.toUpper]
  else match upperExpansions.lookup c.toNat with
    | some codes => codes.map Char.ofNat
    | none => [((upperRuns.findSome? (·.target? c.toNat)).map Char.ofNat).getD c]

/-- The lower case of one character on its own. -/
def lowerChar (c : Char) : List Char :=
  if c.toNat < 0x80 then [c.toLower]
  else if c.toNat == 0x130 then [Char.ofNat 0x69, Char.ofNat 0x307]
  else [((lowerRuns.findSome? (·.target? c.toNat)).map Char.ofNat).getD c]

/-- Whether the first character that is not ignored for case is a cased one. -/
def meetsCased (text : List Char) : Bool :=
  match text.dropWhile (caseIgnorable.contains ·.toNat) with
  | [] => false
  | c :: _ => cased.contains c.toNat

/-- Lower case of `rest`, where `before` is the text in front of it read backwards. -/
def lowerAfter (before : List Char) : List Char → List Char
  | [] => []
  | c :: rest =>
    (if c.toNat == 0x3a3 then
        [Char.ofNat (if meetsCased before && !meetsCased rest then 0x3c2 else 0x3c3)]
      else lowerChar c) ++ lowerAfter (c :: before) rest

/-- Upper case of a text. -/
def toUpper (text : String) : String :=
  String.ofList (text.toList.flatMap upperChar)

/-- Lower case of a text. -/
def toLower (text : String) : String :=
  String.ofList (lowerAfter [] text.toList)

/-- Equal up to the case of the letters of ASCII. -/
def equalsIgnoringAsciiCase (left right : String) : Bool :=
  left.toList.map Char.toLower == right.toList.map Char.toLower

end RequestChain.Text
