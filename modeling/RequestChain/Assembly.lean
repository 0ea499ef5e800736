import RequestChain.Entries
import RequestChain.PathParams
import RequestChain.Text.FormEncoding

/-! # Assembly of requests

The definitions of an API and an endpoint and the overrides of a step become one request: path
parameters first, then base URL and path, headers, parameters, and last the body.
-/

namespace RequestChain

/-- A base URL without its trailing slashes and a path with a leading one, unless it is empty. -/
def joinUrl (baseUrl path : String) : String :=
  let base := String.ofList (Text.trimRight (· == '/') baseUrl.toList)
  match path.toList with
  | [] => base
  | '/' :: _ => base ++ path
  | _ => base ++ "/" ++ path

/-- The parameters behind the query of a URL, or as its query. -/
def appendQuery (url : String) (params : OrderedMap String) : String :=
  if params.isEmpty then url
  else
    let query := String.ofList (Text.formEncodePairs params.entries)
    let separator :=
      if !url.toList.contains '?' then "?"
      else if url.toList.getLast? == some '?' || url.toList.getLast? == some '&' then ""
      else "&"
    url ++ separator ++ query

/-- The headers of an API with those of an endpoint in place of their namesakes. -/
def mergeHeaders (api : Api) (endpoint : Endpoint) : ScalarMap :=
  api.headers.union endpoint.headers

/-- The parameters of an API with those of an endpoint in place of their namesakes. -/
def mergeParams (api : Api) (endpoint : Endpoint) : ScalarMap :=
  api.params.union endpoint.params

/-- Upper case of the letters of ASCII. -/
def asciiUpper (text : String) : String :=
  String.ofList (text.toList.map Char.toUpper)

variable {σ : Type} (registry : Registry σ) (context : Context)

/-- The body of a request, if there is a template for it. -/
def resolveBody : Option Json → Resolving σ (Option Json)
  | none => pure none
  | some template => do return some (← resolveValue registry context template)

/-- The request of an endpoint, in a context for that endpoint. -/
def assemble (api : Api) (endpoint : Endpoint) (overrides : Option Overrides) :
    Resolving σ Request := do
  let changes := overrides.getD {}
  let pathParams ← resolveEntries registry context changes.pathParams
  let baseUrl ← PathParams.resolveWith registry context api.baseUrl pathParams
  let path ← PathParams.resolveWith registry context endpoint.path pathParams
  let headers ← resolveEntriesWithOptional registry context (mergeHeaders api endpoint)
  let params ← resolveEntriesWithOptional registry context (mergeParams api endpoint)
  let ownHeaders ← resolveEntriesWithOptional registry context changes.headers
  let ownParams ← resolveEntriesWithOptional registry context changes.params
  let body ← resolveBody registry context (changes.body.or endpoint.body)
  return {
    method := asciiUpper (Text.trimmed endpoint.method)
    url := appendQuery (joinUrl baseUrl path) (params.union ownParams)
    headers := headers.union ownHeaders
    body }

end RequestChain
