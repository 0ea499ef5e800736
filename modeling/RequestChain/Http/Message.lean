import RequestChain.Exchange
import RequestChain.Http.Status
import RequestChain.Plugin.Basic
import RequestChain.Text.Utf8
import RequestChain.Url.Parser

/-! # Messages on the wire

A request is checked before it is sent: its URL must be one of the web, its method and the names of
its headers must be tokens, and the values of headers must not hold controls. The headers of a reply
are collected by name.
-/

namespace RequestChain.Http

open Url

/-- The version of the program. -/
def version : String := "0.1.0"

/-- How the program introduces itself to servers. -/
def userAgent : String := "relay/" ++ version

/-- The characters of methods and of names of headers. -/
def isTokenChar (c : Char) : Bool :=
  c.isAlphanum || ['!', '#', '$', '%', '&', '\'', '*', '+', '-', '.', '^', '_', '\x60', '|',
    '~'].contains c

/-- A text of at least one such character. -/
def isToken (text : String) : Bool :=
  !text.isEmpty && text.toList.all isTokenChar

/-- A text without controls other than tabs. -/
def isFieldValue (text : String) : Bool :=
  text.toList.all fun c => c == '\t' || (0x20 ≤ c.toNat && c.toNat != 0x7f)

/-- The characters of hosts that can stand in the first line of a request. -/
def isUriHostChar (c : Char) : Bool :=
  c.isAlphanum || ['!', '$', '&', '\'', '(', ')', '*', '+', ',', '-', '.', ';', '=', '_',
    '~'].contains c || 0x7f < c.toNat

/-- A domain of such characters; addresses have no others. -/
def isUriHost : Host → Bool
  | .domain name => name.toList.all isUriHostChar
  | .ipv4 _ | .ipv6 _ => true

/-- Why a request is not sent. -/
inductive Refusal where
  | invalidUrl (url : String) (cause : UrlError)
  | foreignScheme (url scheme : String)
  | invalidMethod (method : String)
  | invalidHeaderName (method url : String)
  | invalidHeaderValue (method url : String)
  | unusableUrl (method url : String) (parsed : WebUrl)
  deriving DecidableEq, Repr

/-- What the failure of a request is introduced with. -/
def failedRequest (method url : String) : String :=
  method ++ " " ++ url ++ " failed"

/-- A refusal as a failure of the transport. -/
def Refusal.failure : Refusal → Failure
  | invalidUrl url cause => ⟨["invalid request URL '" ++ url ++ "': " ++ cause.message]⟩
  | foreignScheme url scheme =>
    ⟨["request URL '" ++ url ++ "' must use http or https; got '" ++ scheme ++ "://'"]⟩
  | invalidMethod method => ⟨["invalid HTTP method '" ++ method ++ "': invalid HTTP method"]⟩
  | invalidHeaderName method url =>
    ⟨[failedRequest method url, "builder error", "invalid HTTP header name"]⟩
  | invalidHeaderValue method url =>
    ⟨[failedRequest method url, "builder error", "failed to parse header value"]⟩
  | unusableUrl method url parsed =>
    ⟨[failedRequest method url, "builder error for url (" ++ parsed.text ++ ")",
      "Parsed Url is not a valid Uri"]⟩

/-- A request as it is sent. Names of headers are in small letters. -/
structure Outgoing where
  method : String
  url : WebUrl
  headers : List (String × String)
  body : Option String
  deriving Repr, Inhabited

/-- An answer as it arrives. Names of headers are in small letters, their values octets. -/
structure Reply where
  status : Nat
  headers : List (String × List UInt8)
  body : List UInt8
  deriving Repr, Inhabited

/-- The URL of a request, if it is one of the web. -/
def webUrl (url : String) : Except Refusal WebUrl :=
  match Url.parse url with
  | .error cause => .error (.invalidUrl url cause)
  | .ok (.other scheme) => .error (.foreignScheme url scheme)
  | .ok (.web parsed) => .ok parsed

/-- A text with the letters of ASCII in lower case. -/
def asciiLower (text : String) : String :=
  String.ofList (text.toList.map Char.toLower)

/-- The headers that a request brings along, unless one of them cannot be sent. -/
def ownHeaders (method url : String) :
    List (String × String) → Except Refusal (List (String × String))
  | [] => .ok []
  | (name, value) :: rest =>
    if !isToken name then .error (.invalidHeaderName method url)
    else if !isFieldValue value then .error (.invalidHeaderValue method url)
    else (ownHeaders method url rest).map ((asciiLower name, value) :: ·)

/-- A header that is added unless there is one of its name. -/
def withDefault (name value : String) (headers : List (String × String)) :
    List (String × String) :=
  if (headers.lookup name).isSome then headers else headers ++ [(name, value)]

/-- The body of a request as it is sent. -/
def bodyText : Json → String
  | .string text => text
  | value => value.compact

/-- Whether the body of a request is sent as JSON. -/
def isSentAsJson : Option Json → Bool
  | none | some (.string _) => false
  | some _ => true

/-- The request as it is sent, unless it cannot be. -/
def prepare (request : Request) : Except Refusal Outgoing := do
  let url ← webUrl request.url
  if !isToken request.method then .error (.invalidMethod request.method)
  else
    let own ← ownHeaders request.method request.url request.headers.entries
    if !isUriHost url.host then .error (.unusableUrl request.method request.url url)
    else
      let typed :=
        if isSentAsJson request.body then withDefault "content-type" "application/json" own
        else own
      return {
        method := request.method
        url
        headers := withDefault "user-agent" userAgent typed
        body := request.body.map bodyText }

/-- The text of a value, with replacements for octets that are none. -/
def headerText (value : List UInt8) : String :=
  String.ofList (Text.utf8Decode value)

/-- Adds a value to those under its name. -/
def collectHeader (collected : OrderedMap String) (header : String × List UInt8) :
    OrderedMap String :=
  match collected.get? header.1 with
  | some known => collected.insert header.1 (known ++ ", " ++ headerText header.2)
  | none => collected.insert header.1 (headerText header.2)

/-- The values of headers under their names, in order. -/
def collectHeaders (headers : List (String × List UInt8)) : OrderedMap String :=
  headers.foldl collectHeader {}

/-- Answers that have no body. -/
def lacksBody (method : String) (status : Nat) : Bool :=
  method == "HEAD" || status == 204 || status == 304

/-- The answer to a request of that method, from what stands on the wire: blanks around the values
of headers do not belong to them. -/
def Reply.ofWire (method : String) (status : Nat) (headers : List (String × String))
    (body : List UInt8) : Reply :=
  let isPadding (c : Char) : Bool := c == ' ' || c == '\t'
  { status
    headers := headers.map fun (name, value) =>
      (asciiLower name,
        Text.utf8Encode (Text.trimRight isPadding (Text.trimLeft isPadding value.toList)))
    body := if lacksBody method status then [] else body }

/-- The response that an answer amounts to. -/
def Reply.response (reply : Reply) : Response :=
  { status := reply.status
    statusText := reasonPhrase reply.status
    headers := collectHeaders reply.headers
    body := String.ofList (Text.utf8Decode reply.body) }

/-- The transport that sends what passes the checks. -/
def transport {σ : Type} (send : Outgoing → Action σ Reply) : Transport σ :=
  fun request =>
    match prepare request with
    | .error refusal => Effect.fail refusal.failure
    | .ok outgoing => do return (← send outgoing).response

end RequestChain.Http
