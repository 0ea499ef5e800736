import RequestChain.Config.Basic
import RequestChain.Text.Utf8
import RequestChain.Yaml.Decode

/-! # Configurations as documents

A configuration is written as a YAML document. A path, a base URL, and the id and the call of a step
must be there; everything else may be left out, and fields that no one knows are passed over.
-/

namespace RequestChain

open Yaml Yaml.Document

section Parts

variable (document : Document)

/-- A map of values. -/
def decodeScalars : Nat → Node → Decoding ScalarMap :=
  document.map document.value

/-- An endpoint. -/
def decodeEndpoint (levels : Nat) (node : Node) : Decoding Endpoint := do
  let fields ← document.fields
    ["method", "path", "headers", "params", "body", "variables"] levels node
  let deeper := levels - 1
  return {
    method := ← optionalField fields "method" "GET" document.text
    path := ← requiredField fields "path" document.text
    headers := ← optionalField fields "headers" {} (decodeScalars document deeper)
    params := ← optionalField fields "params" {} (decodeScalars document deeper)
    body := ← document.nullableField fields "body" (document.value deeper)
    vars := ← optionalField fields "variables" {} (decodeScalars document deeper) }

/-- An API. -/
def decodeApi (levels : Nat) (node : Node) : Decoding Api := do
  let fields ← document.fields
    ["baseUrl", "headers", "params", "variables", "endpoints"] levels node
  let deeper := levels - 1
  return {
    baseUrl := ← requiredField fields "baseUrl" document.text
    headers := ← optionalField fields "headers" {} (decodeScalars document deeper)
    params := ← optionalField fields "params" {} (decodeScalars document deeper)
    vars := ← optionalField fields "variables" {} (decodeScalars document deeper)
    endpoints := ← optionalField fields "endpoints" {}
      (document.map (decodeEndpoint document) deeper) }

/-- What a step changes. -/
def decodeOverrides (levels : Nat) (node : Node) : Decoding Overrides := do
  let fields ← document.fields ["headers", "params", "pathParams", "body"] levels node
  let deeper := levels - 1
  return {
    headers := ← optionalField fields "headers" {} (decodeScalars document deeper)
    params := ← optionalField fields "params" {} (decodeScalars document deeper)
    pathParams := ← optionalField fields "pathParams" {} (decodeScalars document deeper)
    body := ← document.nullableField fields "body" (document.value deeper) }

/-- A step. -/
def decodeStep (levels : Nat) (node : Node) : Decoding Step := do
  let fields ← document.fields ["id", "call", "with"] levels node
  let deeper := levels - 1
  return {
    id := ← requiredField fields "id" document.text
    call := ← requiredField fields "call" document.text
    overrides := ← document.nullableField fields "with" (decodeOverrides document deeper) }

/-- A chain. -/
def decodeChain (levels : Nat) (node : Node) : Decoding Chain := do
  let fields ← document.fields ["description", "vars", "steps"] levels node
  let deeper := levels - 1
  return {
    description := ← document.nullableField fields "description" document.text
    vars := ← optionalField fields "vars" {} (decodeScalars document deeper)
    steps := ← optionalField fields "steps" [] (document.list (decodeStep document) deeper) }

/-- A configuration. -/
def decodeConfig (levels : Nat) (node : Node) : Decoding Config := do
  let fields ← document.fields ["apis", "profiles", "chains"] levels node
  let deeper := levels - 1
  return {
    apis := ← optionalField fields "apis" {} (document.map (decodeApi document) deeper)
    profiles := ← optionalField fields "profiles" {}
      (document.map (decodeScalars document) deeper)
    chains := ← optionalField fields "chains" {} (document.map (decodeChain document) deeper) }

end Parts

namespace Config

/-- The configuration of a document; a text without a document is an empty configuration. -/
def ofDocument? (document : Document) : Option Config :=
  match document.root with
  | none => some {}
  | some root => (decodeConfig document maxLevels root).run' 0

/-- The configuration that a text describes. -/
def parse? (text : String) : Option Config :=
  (Document.parse? text).bind ofDocument?

/-- Why a file gives no configuration. -/
inductive LoadError where
  /-- There is no such file, or it holds no text. -/
  | unreadable (path : String)
  /-- The text is no configuration. -/
  | malformed (path : String)
  deriving DecidableEq, Repr

/-- The wording of an error. -/
def LoadError.message : LoadError → String
  | unreadable path => "Failed to read config file: " ++ path
  | malformed path => "Failed to parse config file: " ++ path

/-- The configuration in a file, from its octets if it can be opened. -/
def load (path : String) (octets : Option (List UInt8)) : Except LoadError Config :=
  match octets.bind Text.utf8Decode? with
  | none => .error (.unreadable path)
  | some text =>
    match parse? (String.ofList text) with
    | none => .error (.malformed path)
    | some config => .ok config

end Config

end RequestChain
