import RequestChain.Decimal.Shortest

/-! # JSON values

Values as they are held in configurations, requests and responses. An object is a list of fields;
`Json.sorted` gives the form in which values are compared: fields in the order of their names, each
name once, with the value that was written last.
-/

namespace RequestChain

/-- A number is whole and fits a 64-bit word, signed or not, or it is binary floating point. -/
inductive JsonNumber where
  | whole (value : Int)
  | real (value : Decimal.Binary64)
  deriving DecidableEq, Repr, Inhabited

/-- A JSON value. -/
inductive Json where
  | null
  | bool (value : Bool)
  | number (value : JsonNumber)
  | string (value : String)
  | array (items : List Json)
  | object (fields : List (String × Json))
  deriving Repr, Inhabited

namespace Json

/-- A whole number. -/
def ofNat (n : Nat) : Json := .number (.whole n)

/-- A list of strings. -/
def ofStrings (texts : List String) : Json := .array (texts.map .string)

/-- A field that is not yet present takes its place in the order of names. -/
def insertField (name : String) (value : Json) : List (String × Json) → List (String × Json)
  | [] => [(name, value)]
  | (other, held) :: rest =>
    if name = other then (other, held) :: rest
    else if name < other then (name, value) :: (other, held) :: rest
    else (other, held) :: insertField name value rest

mutual

/-- Fields in the order of their names, the last of equal names winning, at every depth. -/
def sorted : Json → Json
  | .array items => .array (sortedItems items)
  | .object fields => .object (sortedFields fields)
  | .null => .null
  | .bool value => .bool value
  | .number value => .number value
  | .string value => .string value

/-- The items of an array, sorted inside. -/
def sortedItems : List Json → List Json
  | [] => []
  | item :: rest => item.sorted :: sortedItems rest

/-- The fields of an object in order, sorted inside. -/
def sortedFields : List (String × Json) → List (String × Json)
  | [] => []
  | (name, value) :: rest => insertField name value.sorted (sortedFields rest)

end

/-- An object from fields in any order. -/
def ofFields (fields : List (String × Json)) : Json :=
  .object (fields.foldr (fun field rest => insertField field.1 field.2 rest) [])

/-- The field of an object. -/
def field? (value : Json) (name : String) : Option Json :=
  match value with
  | .object fields => fields.lookup name
  | _ => none

/-- The text of a string. -/
def string? : Json → Option String
  | .string text => some text
  | _ => none

end Json

end RequestChain
