import RequestChain.Yaml.Document
import RequestChain.Yaml.Scalar

/-! # Reading values from nodes

A text is read from any scalar as it is written. An empty plain scalar also counts as an empty
mapping or sequence, and a plain null as something that is absent. Collections nest to a limited
depth, and aliases are followed a limited number of times, so that a document that refers to itself
cannot be read.
-/

namespace RequestChain.Yaml.Document

/-- How deep collections nest. -/
def maxLevels : Nat := 128

/-- Counts the aliases that are followed, or fails. -/
abbrev Decoding := StateT Nat Option

variable (document : Document)

/-- The node that an alias means, or the node itself. On the average, an event of the document is
followed at most a hundred times. -/
def follow : Node → Decoding Node
  | .alias number => do
    let followed := (← get) + 1
    set followed
    if document.events * 100 < followed then failure
    else
      match document.targets.lookup number with
      | some node => return node
      | none => failure
  | node => return node

/-- A node that stands for an empty collection. -/
def isEmptyPlain : Node → Bool
  | .scalar _ _ text plain => text.isEmpty && plain
  | _ => false

/-- The text of a scalar. -/
def text (node : Node) : Decoding String := do
  match ← document.follow node with
  | .scalar _ _ content _ => return content
  | _ => failure

/-- The items of a sequence that stands `levels` levels above the deepest collection. -/
def items (levels : Nat) (node : Node) : Decoding (List Node) := do
  match ← document.follow node with
  | .sequence _ _ nodes => if levels = 0 then failure else return nodes
  | other => if isEmptyPlain other then return [] else failure

/-- The names and the nodes of a mapping that stands `levels` levels above the deepest
collection. -/
def entries (levels : Nat) (node : Node) : Decoding (List (String × Node)) := do
  match ← document.follow node with
  | .mapping _ _ nodes =>
    if levels = 0 then failure
    else nodes.mapM fun (key, value) => return (← document.text key, value)
  | other => if isEmptyPlain other then return [] else failure

/-- The node if something is there. -/
def present? (node : Node) : Decoding (Option Node) := do
  match ← document.follow node with
  | .scalar anchor tag content plain =>
    let node := Node.scalar anchor tag content plain
    if !plain then return some node
    else
      match tag with
      | none => return if content.isEmpty || Scalar.isNull content then none else some node
      | some .null => if Scalar.isNull content then return none else failure
      | some _ => return some node
  | other => return some other

/-- The value of a node that stands `levels` levels above the deepest collection. -/
def value : Nat → Node → Decoding Json
  | levels, node => do
    match ← document.follow node with
    | .scalar _ tag content plain =>
      match Scalar.value? tag content plain with
      | some held => return held
      | none => failure
    | .sequence _ tag nodes =>
      match levels with
      | 0 => failure
      | deeper + 1 =>
        if tag == some .application then failure
        else return .array (← nodes.mapM (value deeper))
    | .mapping _ tag nodes =>
      match levels with
      | 0 => failure
      | deeper + 1 =>
        if tag == some .application then failure
        else
          let fields ← nodes.mapM fun (key, held) =>
            return (← document.text key, ← value deeper held)
          return Json.ofFields fields
    | .alias _ => failure

/-- A map from names, a later value taking the place of an earlier one. -/
def map {α : Type} (read : Nat → Node → Decoding α) (levels : Nat) (node : Node) :
    Decoding (OrderedMap α) := do
  let fields ← document.entries levels node
  let values ← fields.mapM fun (name, held) => return (name, ← read (levels - 1) held)
  return .ofList values

/-- A list. -/
def list {α : Type} (read : Nat → Node → Decoding α) (levels : Nat) (node : Node) :
    Decoding (List α) := do
  (← document.items levels node).mapM (read (levels - 1))

/-- The fields of a structure; a known field must not be repeated, and others do not matter. -/
def fields (known : List String) (levels : Nat) (node : Node) :
    Decoding (List (String × Node)) := do
  let found := (← document.entries levels node).filter (known.contains ·.1)
  if (found.map Prod.fst).Nodup then return found else failure

/-- The value of a field that may be missing. -/
def optionalField {α : Type} (fields : List (String × Node)) (name : String) (default : α)
    (read : Node → Decoding α) : Decoding α :=
  match fields.lookup name with
  | some node => read node
  | none => return default

/-- The value of a field that must be there. -/
def requiredField {α : Type} (fields : List (String × Node)) (name : String)
    (read : Node → Decoding α) : Decoding α :=
  match fields.lookup name with
  | some node => read node
  | none => failure

/-- The value of a field that may also be there and be null. -/
def nullableField {α : Type} (fields : List (String × Node)) (name : String)
    (read : Node → Decoding α) : Decoding (Option α) :=
  optionalField fields name none fun node => do
    match ← document.present? node with
    | some held => return some (← read held)
    | none => return none

end RequestChain.Yaml.Document
