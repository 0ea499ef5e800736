import RequestChain.Json.Printer
import RequestChain.Json.Reader
import RequestChain.OrderedMap
import RequestChain.Text.Blank

/-! # Requests and responses

A request is fully resolved and ready to be sent; a response is what came back, whatever its
status. Both have a JSON form for reports.
-/

namespace RequestChain

/-- A request that is ready to be sent. -/
structure Request where
  method : String := ""
  url : String := ""
  headers : OrderedMap String := {}
  /-- A string is sent as it is, any other value as JSON. -/
  body : Option Json := none
  deriving Repr, Inhabited

/-- The answer to a request. -/
structure Response where
  status : Nat := 0
  statusText : String := ""
  headers : OrderedMap String := {}
  body : String := ""
  deriving Repr, Inhabited, DecidableEq

namespace Response

/-- What stands in for an answer when nothing is sent. -/
def dryRun : Response :=
  { status := 200, statusText := "OK" }

/-- Statuses below 400 are successes. -/
def isSuccess (response : Response) : Bool :=
  response.status < 400

/-- Whether a text begins, behind blanks, like an object or an array. -/
def looksStructured (body : String) : Bool :=
  match Text.trimStart body.toList with
  | '{' :: _ | '[' :: _ => true
  | _ => false

/-- The body as JSON if it is an object or an array, else as a string. -/
def bodyValue (response : Response) : Json :=
  if looksStructured response.body then
    (Json.parse? response.body).getD (.string response.body)
  else .string response.body

end Response

/-- A map of strings as a JSON object in the order of the map. -/
def OrderedMap.toJson (map : OrderedMap String) : Json :=
  .object (map.entries.map fun (name, value) => (name, .string value))

/-- A field that is left out when it has no value. -/
def Json.optionalField (name : String) : Option Json → List (String × Json)
  | some value => [(name, value)]
  | none => []

/-- The JSON form of a request, without a body field if there is no body. -/
def Request.toJson (request : Request) : Json :=
  .object ([("method", .string request.method), ("url", .string request.url),
    ("headers", request.headers.toJson)] ++ Json.optionalField "body" request.body)

/-- The JSON form of a response. -/
def Response.toJson (response : Response) : Json :=
  .object [("status", Json.ofNat response.status), ("statusText", .string response.statusText),
    ("headers", response.headers.toJson), ("body", .string response.body)]

end RequestChain
