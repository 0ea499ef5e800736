import RequestChain.Url.Basic
import RequestChain.Url.Domain

/-! # Reading URLs

A text is read from left to right: scheme, users, host, port, path, query and fragment. Line breaks
and tabs are dropped, and in the schemes of the web a backslash is a slash. Percent signs take the
place of the characters that must not stand in a path or in a query; dots as segments of a path are
resolved.
-/

namespace RequestChain.Url

/-- The text without controls and spaces at its ends, and without tabs and breaks. -/
def cleaned (raw : String) : List Char :=
  let isEdge (c : Char) : Bool := c.toNat ≤ 0x20
  let trimmed := ((raw.toList.dropWhile isEdge).reverse.dropWhile isEdge).reverse
  trimmed.filter fun c => !(c == '\t' || c == '\n' || c == '\r')

/-- The characters of a scheme behind its first letter. -/
def isSchemeChar (c : Char) : Bool :=
  c.isAlphanum || c == '+' || c == '-' || c == '.'

/-- The scheme in small letters, and the text behind its colon. -/
def splitScheme? (text : List Char) : Option (String × List Char) :=
  match text.head?, text.dropWhile isSchemeChar with
  | some first, ':' :: rest =>
    if first.isAlpha then
      some (String.ofList ((text.takeWhile isSchemeChar).map Char.toLower), rest)
    else none
  | _, _ => none

/-- How the text behind a scheme is read. -/
inductive SchemeKind where
  /-- The schemes of the web and those like them. -/
  | special
  | file
  | ordinary
  deriving DecidableEq, Repr

/-- The kind of a scheme. -/
def schemeKind (scheme : String) : SchemeKind :=
  if scheme = "file" then .file
  else if ["http", "https", "ws", "wss", "ftp"].contains scheme then .special
  else .ordinary

/-- The characters behind which there is no more of an authority. -/
def endsAuthority (special : Bool) (c : Char) : Bool :=
  c == '/' || c == '?' || c == '#' || (special && c == '\\')

/-- The text in front of the last at sign and that behind it, if there is one. -/
def splitUser? (authority : List Char) : Option (List Char × List Char) :=
  let host := (authority.reverse.takeWhile (· ≠ '@')).reverse
  if host.length = authority.length then none
  else some (authority.take (authority.length - host.length - 1), host)

/-- The text of a host in front of its port: colons between brackets belong to it. -/
def splitHost (inBrackets : Bool) : List Char → List Char × List Char
  | [] => ([], [])
  | c :: rest =>
    if c = ':' && !inBrackets then ([], c :: rest)
    else
      let inBrackets := c = '[' || (c ≠ ']' && inBrackets)
      let (host, port) := splitHost inBrackets rest
      (c :: host, port)

/-- The address between brackets, if a host begins with one. -/
def bracketed? (host : List Char) : Option (Except UrlError Host) :=
  match host with
  | '[' :: rest =>
    if host.getLast? == some ']' then
      some (((parseIpv6? rest.dropLast).map (Except.ok ∘ Host.ipv6)).getD (.error .invalidIpv6))
    else some (.error .invalidIpv6)
  | _ => none

/-- The host of a scheme of the web. -/
def parseHost (host : List Char) : Except UrlError Host :=
  match bracketed? host with
  | some outcome => outcome
  | none =>
    match domain? host with
    | none => .error .invalidDomain
    | some [] => .error .emptyHost
    | some name =>
      if endsInNumber name then
        ((parseIpv4? name).map (Except.ok ∘ Host.ipv4)).getD (.error .invalidIpv4)
      else .ok (.domain (String.ofList name))

/-- Characters that cannot stand in the host of an ordinary scheme. -/
def isForbiddenInHosts (c : Char) : Bool :=
  c.toNat == 0 || [' ', '#', '/', ':', '<', '>', '?', '@', '[', '\\', ']', '^', '|'].contains c

/-- The host of an ordinary scheme, which is kept as it is. -/
def parseOrdinaryHost (host : List Char) : Except UrlError Host :=
  match bracketed? host with
  | some outcome => outcome
  | none =>
    if host.any isForbiddenInHosts then .error .forbiddenHostChar
    else .ok (.domain (String.ofList host))

/-- A port behind a colon; no digits are no port. -/
def parsePort : List Char → Except UrlError (Option Nat)
  | ':' :: digits =>
    if !digits.all Char.isDigit then .error .invalidPort
    else
      match natOfDigits? 10 digits with
      | some port => if port < 65536 then .ok (if digits.isEmpty then none else some port)
        else .error .invalidPort
      | none => .error .invalidPort
  | _ => .ok none

/-- The host and the port at the front of a text behind the slashes of a scheme, and the text behind
them. -/
def parseAuthority (special : Bool) (text : List Char) :
    Except UrlError (Host × Option Nat × List Char) := do
  let authority := text.takeWhile (!endsAuthority special ·)
  let rest := text.dropWhile (!endsAuthority special ·)
  let (user, location) := (splitUser? authority).getD ([], authority)
  if (splitUser? authority).isSome && user.isEmpty && location.isEmpty && !rest.isEmpty then
    .error .emptyHost
  else
    let (name, portText) := splitHost false location
    if special && name.isEmpty then .error .emptyHost
    else
      let host ← if special then parseHost name else parseOrdinaryHost name
      let isEmpty := host == .domain ""
      if isEmpty && !portText.isEmpty then .error .emptyHost
      else
        let port ← parsePort portText
        if isEmpty && !(user.isEmpty || user == [':']) then .error .emptyHost
        else .ok (host, port, rest)

/-- A letter and a colon or a bar, as the names of drives are written. -/
def isDriveName : List Char → Bool
  | [letter, mark] => letter.isAlpha && (mark == ':' || mark == '|')
  | _ => false

/-- Checks the host of a URL of a file, if there is one. -/
def checkFile (text : List Char) : Except UrlError Unit :=
  let isSlash (c : Char) : Bool := c == '/' || c == '\\'
  match text with
  | first :: second :: rest =>
    if isSlash first && isSlash second then
      let host := rest.takeWhile (!endsAuthority true ·)
      if host.isEmpty || isDriveName host then .ok () else (parseHost host).map fun _ => ()
    else .ok ()
  | _ => .ok ()

/-- Characters that stand in no path. -/
def isEncodedInPath (c : Char) : Bool :=
  c.toNat ≤ 0x20 || 0x7f ≤ c.toNat || ['"', '#', '<', '>', '?', '\x60', '\x7b', '\x7d'].contains c

/-- Characters that stand in no query. -/
def isEncodedInQuery (c : Char) : Bool :=
  c.toNat ≤ 0x20 || 0x7f ≤ c.toNat || ['"', '#', '<', '>', '\''].contains c

/-- Characters that stand in no fragment. -/
def isEncodedInFragment (c : Char) : Bool :=
  c.toNat ≤ 0x20 || 0x7f ≤ c.toNat || ['"', '<', '>', '\x60'].contains c

/-- The text with the octets of some characters behind percent signs. -/
def percentEncode (isEncoded : Char → Bool) (text : List Char) : List Char :=
  text.flatMap fun c =>
    if isEncoded c then (String.utf8EncodeChar c).flatMap Text.percentOctet else [c]

/-- How many dots a segment is, where a dot may be written with a percent sign. -/
def dots? : List Char → Option Nat
  | [] => some 0
  | '.' :: rest => (dots? rest).map (· + 1)
  | '%' :: '2' :: e :: rest => if e == 'e' || e == 'E' then (dots? rest).map (· + 1) else none
  | _ => none

/-- The segments without the last one, unless that is the name of a drive. -/
def dropSegment (segments : List (List Char)) : List (List Char) :=
  if segments.getLast?.any isDriveName then segments else segments.dropLast

/-- The segments of a path behind those in front of it, with dots resolved. The last one is what
stands behind the last slash. -/
def resolveSegments (before : List (List Char)) : List (List Char) → List (List Char)
  | [] => before
  | [segment] =>
    match dots? segment with
    | some 1 => before ++ [[]]
    | some 2 => dropSegment before ++ [[]]
    | _ => before ++ [percentEncode isEncodedInPath segment]
  | segment :: rest =>
    match dots? segment with
    | some 1 => resolveSegments before rest
    | some 2 => resolveSegments (dropSegment before) rest
    | _ => resolveSegments (before ++ [percentEncode isEncodedInPath segment]) rest

/-- The path of a URL, with or without its leading slash. -/
def parsePath (text : List Char) : String :=
  let slashed := text.map fun c => if c = '\\' then '/' else c
  let relative := match slashed with
    | '/' :: rest => rest
    | rest => rest
  String.ofList ((resolveSegments [] (splitAll '/' relative)).flatMap ('/' :: ·))

/-- The path, the query and the fragment behind an authority. -/
def parseTail (secure : Bool) (host : Host) (port : Option Nat) (text : List Char) : WebUrl :=
  let location := text.takeWhile (· ≠ '#')
  let query := location.dropWhile (· ≠ '?')
  let fragment := text.dropWhile (· ≠ '#')
  let behind (isEncoded : Char → Bool) : List Char → Option String
    | [] => none
    | _ :: rest => some (String.ofList (percentEncode isEncoded rest))
  { secure, host
    port := port.filter (· ≠ if secure then 443 else 80)
    path := parsePath (location.takeWhile (· ≠ '?'))
    query := behind isEncodedInQuery query
    fragment := behind isEncodedInFragment fragment }

/-- The URL that a text is. -/
def parse (raw : String) : Except UrlError Reference := do
  match splitScheme? (cleaned raw) with
  | none => .error .relative
  | some (scheme, rest) =>
    match schemeKind scheme with
    | .file =>
      checkFile rest
      return .other scheme
    | .special =>
      let (host, port, rest) ←
        parseAuthority true (rest.dropWhile fun c => c == '/' || c == '\\')
      if scheme = "http" || scheme = "https" then
        return .web (parseTail (scheme == "https") host port rest)
      else return .other scheme
    | .ordinary =>
      match rest with
      | '/' :: '/' :: authority =>
        let _ ← parseAuthority false authority
        return .other scheme
      | _ => return .other scheme

end RequestChain.Url
