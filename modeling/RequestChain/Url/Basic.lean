import RequestChain.Text.FormEncoding
import RequestChain.Url.Address

/-! # URLs

The URLs of requests, split into their parts and brought into one form. Of URLs that no request can
use only the scheme is kept.
-/

namespace RequestChain.Url

/-- Why a text is no URL. -/
inductive UrlError where
  | relative
  | emptyHost
  | invalidDomain
  | forbiddenHostChar
  | invalidPort
  | invalidIpv4
  | invalidIpv6
  deriving DecidableEq, Repr

/-- The wording of an error. -/
def UrlError.message : UrlError → String
  | relative => "relative URL without a base"
  | emptyHost => "empty host"
  | invalidDomain => "invalid international domain name"
  | forbiddenHostChar => "invalid domain character"
  | invalidPort => "invalid port number"
  | invalidIpv4 => "invalid IPv4 address"
  | invalidIpv6 => "invalid IPv6 address"

/-- What a URL names in front of its path. -/
inductive Host where
  | domain (name : String)
  | ipv4 (address : Nat)
  | ipv6 (pieces : List Nat)
  deriving DecidableEq, Repr, Inhabited

/-- The text of a host. -/
def Host.text : Host → String
  | domain name => name
  | ipv4 address => ipv4Text address
  | ipv6 pieces => "[" ++ ipv6Text pieces ++ "]"

/-- A URL of the web. Names and passwords of users are not kept. -/
structure WebUrl where
  secure : Bool
  host : Host
  /-- The port, unless it is that of the scheme. -/
  port : Option Nat
  /-- The path, which begins with a slash. -/
  path : String
  query : Option String
  fragment : Option String
  deriving DecidableEq, Repr, Inhabited

namespace WebUrl

/-- The scheme of the URL. -/
def scheme (url : WebUrl) : String :=
  if url.secure then "https" else "http"

/-- What a request asks a server for: the path and the query. -/
def target (url : WebUrl) : String :=
  url.path ++ ((url.query.map ("?" ++ ·)).getD "")

/-- The text of the URL. -/
def text (url : WebUrl) : String :=
  url.scheme ++ "://" ++ url.host.text ++ ((url.port.map (":" ++ toString ·)).getD "") ++
    url.target ++ ((url.fragment.map ("#" ++ ·)).getD "")

end WebUrl

/-- What a text with a scheme is. -/
inductive Reference where
  | web (url : WebUrl)
  | other (scheme : String)
  deriving DecidableEq, Repr, Inhabited

end RequestChain.Url
