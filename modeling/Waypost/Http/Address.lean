import Waypost.Decimal.Reader
import Waypost.Host.Name
import Waypost.Host.Numeric
import Waypost.Http.Percent
import Waypost.Text.Case
import Waypost.Text.Quoted

/-!
# Addresses

An address has a scheme, a server (user, host and socket number), a path, a query and a fragment;
each of them may be missing. It is kept in ASCII: hosts beyond ASCII in their ASCII form, other
characters as escapes.

* `AddressFault` -- why a text is no address, with its wording;
* `Address.of` -- the address of a text;
* `Address.text` -- the text of an address;
* `Address.shownHost` -- the host as its owner writes it;
* `Address.revised` -- an address with some of its parts replaced, checked again;
* `Address.standalone` -- an address without scheme or host, as one that begins at the root.
-/

namespace Waypost

open Decimal Text

/-! ## 1. Faults -/

/-- The parts that are checked one by one. -/
inductive AddressPart where
  | scheme
  | authority
  | path
  | query
  | fragment
  | host
  deriving DecidableEq, Repr

/-- The name of a part. -/
def AddressPart.name : AddressPart → String
  | .scheme => "scheme"
  | .authority => "authority"
  | .path => "path"
  | .query => "query"
  | .fragment => "fragment"
  | .host => "host"

/-- Why a text is no address. Faults of length and of control characters are found in the whole
    text or in one part. -/
inductive AddressFault where
  | tooLong (part : Option AddressPart)
  | control (part : Option AddressPart) (c : Char) (index : Nat)
  | fourNumbers (host : String)
  | eightGroups (host : String)
  | name (host : String)
  | socket (text : String)
  | pathWithoutSlash
  | pathOfTwoSlashes
  | pathOfColon
  | unwritable (why : EncodeFault)
  deriving DecidableEq, Repr

/-- The wording of a fault. -/
def AddressFault.message : AddressFault → String
  | .tooLong none => "URL too long"
  | .tooLong (some part) => "URL component '" ++ part.name ++ "' too long"
  | .control part c index =>
    let place := (part.map fun p => " " ++ p.name ++ " component").getD ""
    "Invalid non-printable ASCII character in URL" ++ place ++ ", " ++ quote c.toString
      ++ s!" at position {index}."
  | .fourNumbers host => "Invalid IPv4 address: " ++ quote host
  | .eightGroups host => "Invalid IPv6 address: " ++ quote host
  | .name host => "Invalid IDNA hostname: " ++ quote host
  | .socket text => "Invalid port: " ++ quote text
  | .pathWithoutSlash => "For absolute URLs, path must be empty or begin with '/'"
  | .pathOfTwoSlashes => "Relative URLs cannot have a path starting with '//'"
  | .pathOfColon => "Relative URLs cannot have a path starting with ':'"
  | .unwritable why => why.message

/-- The most code points of an address and of each of its parts. -/
def addressLimit : Nat := 65536

/-- A control character of ASCII. -/
def isControl (n : Nat) : Bool := n < 32 || n = 127

/-- Refuses a text that is too long or holds a control character. -/
def checkPart (part : Option AddressPart) (s : String) : Except AddressFault Unit :=
  let points := pointsOf s.toList
  if addressLimit < points.length then .error (.tooLong part)
  else
    match points.zipIdx.find? fun entry => isControl entry.1 with
    | some (n, index) => .error (.control part (Char.ofNat n) index)
    | none => .ok ()

/-! ## 2. Characters -/

/-- A visible character of ASCII that is none of the given ones. -/
def visibleBut (others : List Char) (c : Char) : Bool :=
  0x20 < c.toNat && c.toNat < 0x7F && !(others.contains c)

/-- What has to be escaped in a query. -/
def queryEscaped : List Char := ['"', '#', '<', '>']

/-- What has to be escaped in a fragment. -/
def fragmentEscaped : List Char := ['"', '<', '>', '\x60']

/-- What has to be escaped in a path. -/
def pathEscaped : List Char := queryEscaped ++ ['?', '\x60', '\x7b', '\x7d']

/-- What has to be escaped in the name of a user. -/
def userEscaped : List Char := pathEscaped ++ ['/', ';', '=', '@', '[', '\\', ']', '^', '|']

/-- A part with escapes for the characters outside a class. -/
def escapedPart (safe : Char → Bool) (s : String) : Except AddressFault String :=
  (escapeOutside safe s).mapError .unwritable

/-- What may stand in the name of a host in ASCII. -/
def isHostSafe (c : Char) : Bool :=
  isUnreserved c || ['!', '$', '&', '\x27', '(', ')', '*', '+', ',', ';', '=', '"', '\x60',
    '\x7b', '\x7d', '%', '|', '\\'].contains c

/-! ## 3. Parts -/

/-- The parts of an address as they are written. -/
structure AddressParts where
  scheme : String
  authority : String
  path : String
  query : Option String
  fragment : Option String

/-- Whether characters form the name of a scheme, which may be empty. -/
def isScheme : List Char → Bool
  | [] => true
  | c :: rest =>
    c.isAlpha && rest.all fun c => c.isAlphanum || c == '+' || c == '.' || c == '-'

/-- The part of a list in front of a mark, and what stands behind it, if it is there at all. -/
def cutAt (mark : Char) (cs : List Char) : List Char × Option String :=
  match cs.span (· != mark) with
  | (front, _ :: back) => (front, some (String.ofList back))
  | (front, []) => (front, none)

/-- Cuts an address up. -/
def AddressParts.of (url : String) : AddressParts :=
  let (cs, fragment) := cutAt '#' url.toList
  let (cs, query) := cutAt '?' cs
  let (scheme, rest) :=
    match cs.span (· != ':') with
    | (front, _ :: back) => if isScheme front then (front, back) else ([], cs)
    | _ => ([], cs)
  let (authority, path) :=
    match rest with
    | '/' :: '/' :: server => server.span (· != '/')
    | _ => ([], rest)
  ⟨String.ofList scheme, String.ofList authority, String.ofList path, query, fragment⟩

/-- Cuts at the last copy of a mark: what stands in front of it, if it is there, and the rest. -/
def cutLast (mark : Char) (cs : List Char) : Option (List Char) × List Char :=
  match cs.reverse.span (· != mark) with
  | (back, _ :: front) => (some front.reverse, back.reverse)
  | (_, []) => (none, cs)

/-- User, host and socket number of a server. The host may stand in square brackets, and then may
    hold colons. -/
def serverParts (authority : String) : String × String × String :=
  let (user, server) := cutLast '@' authority.toList
  let (host, rest) :=
    match server, cutLast ']' server with
    | '[' :: _, (some front, back) => (front ++ [']'], back)
    | _, _ => server.span (· != ':')
  let socket := if rest.head? == some ':' then rest.drop 1 else rest
  (String.ofList (user.getD []), String.ofList host, String.ofList socket)

/-- The socket number that a scheme implies. -/
def impliedSocket? (scheme : String) : Option Int :=
  [("ftp", 21), ("http", 80), ("https", 443), ("ws", 80), ("wss", 443)].lookup scheme

/-- The socket number of a text, unless the scheme implies it. -/
def socketNumber (scheme text : String) : Except AddressFault (Option Int) :=
  if text.isEmpty then .ok none
  else
    match looseInteger? text with
    | some n => .ok (if impliedSocket? scheme = some n then none else some n)
    | none => .error (.socket text)

/-- The form in which a host is kept: without brackets, and in ASCII. -/
def hostForm (host : String) : Except AddressFault String :=
  let cs := host.toList
  if cs.isEmpty then .ok ""
  else if Host.looksLikeFourNumbers cs then
    if Host.isFourNumbers cs then .ok host else .error (.fourNumbers host)
  else if cs.head? == some '[' && cs.getLast? == some ']' then
    let inner := (cs.drop 1).dropLast
    if Host.isEightGroups inner then .ok (String.ofList inner) else .error (.eightGroups host)
  else if cs.all fun c => c.toNat < 128 then escapedPart isHostSafe (lower host)
  else
    match Host.asciiName (lower host).toList with
    | .ok name => .ok (String.ofList name)
    | .error _ => .error (.name host)

/-- Drops the segments of a path that stand for the place itself or the one above. -/
def dropDots (path : List Char) : List Char :=
  let segments := splitOn '/' path
  if !segments.any fun s => s == ['.'] || s == ['.', '.'] then path
  else
    let kept := segments.foldl (fun (kept : List (List Char)) s =>
      if s == ['.'] then kept
      else if s == ['.', '.'] then (if kept == [[]] then kept else kept.drop 1)
      else s :: kept) []
    ['/'].intercalate kept.reverse

/-- Checks a path against what stands in front of it: behind a server it begins with a slash, and
    with nothing in front it must not look like a server or a scheme. -/
def checkPath (hasScheme hasServer : Bool) : List Char → Except AddressFault Unit
  | [] => .ok ()
  | c :: rest =>
    if hasServer && c != '/' then .error .pathWithoutSlash
    else if hasScheme || hasServer then .ok ()
    else if c == '/' && rest.head? == some '/' then .error .pathOfTwoSlashes
    else if c == ':' then .error .pathOfColon
    else .ok ()

/-! ## 4. Addresses -/

/-- An address in ASCII. -/
structure Address where
  scheme : String
  user : String
  host : String
  socket : Option Int
  path : String
  query : Option String
  fragment : Option String
  deriving Repr

namespace Address

/-- The address of some parts. A host that is given beside them takes the place of theirs. -/
def ofParts (parts : AddressParts) (otherHost : Option String := none) :
    Except AddressFault Address := do
  let scheme := lower parts.scheme
  let (user, ownHost, socket) := serverParts parts.authority
  let user ← escapedPart (visibleBut userEscaped) user
  let host ← hostForm (otherHost.getD ownHost)
  let socket ← socketNumber scheme socket
  let hasScheme := !scheme.isEmpty
  let hasServer := !user.isEmpty || !host.isEmpty || socket.isSome
  let path := parts.path.toList
  checkPath hasScheme hasServer path
  let path := String.ofList (if hasScheme || hasServer then dropDots path else path)
  return {
    scheme, user, host, socket
    path := ← escapedPart (visibleBut pathEscaped) path
    query := ← parts.query.mapM (escapedPart (visibleBut queryEscaped))
    fragment := ← parts.fragment.mapM (escapedPart (visibleBut fragmentEscaped)) }

/-- The address of a text. -/
def of (url : String) : Except AddressFault Address := do
  checkPart none url
  ofParts (AddressParts.of url)

/-- Host and socket number as they are written; a host with colons stands in square brackets. -/
def server (a : Address) : String :=
  let host := if a.host.toList.contains ':' then "[" ++ a.host ++ "]" else a.host
  host ++ ((a.socket.map fun n => ":" ++ toString n).getD "")

/-- User and server as they are written. -/
def authority (a : Address) : String :=
  (if a.user.isEmpty then "" else a.user ++ "@") ++ a.server

/-- The parts of an address. -/
def parts (a : Address) : AddressParts := ⟨a.scheme, a.authority, a.path, a.query, a.fragment⟩

/-- An optional part with the mark in front of it. -/
def marked (mark : String) (part : Option String) : String := (part.map (mark ++ ·)).getD ""

/-- The text of an address. -/
def text (a : Address) : String :=
  (if a.scheme.isEmpty then "" else a.scheme ++ ":")
    ++ (if a.authority.isEmpty then "" else "//" ++ a.authority)
    ++ a.path ++ marked "?" a.query ++ marked "#" a.fragment

/-- Whether an address names a scheme and a host. -/
def isAbsolute (a : Address) : Bool := !a.scheme.isEmpty && !a.host.isEmpty

/-- The address of some parts, each of which is checked. -/
def revised (parts : AddressParts) (otherHost : Option String := none) :
    Except AddressFault Address := do
  checkPart (some .scheme) parts.scheme
  checkPart (some .authority) parts.authority
  checkPart (some .path) parts.path
  parts.query.forM (checkPart (some .query))
  parts.fragment.forM (checkPart (some .fragment))
  otherHost.forM (checkPart (some .host))
  ofParts parts otherHost

/-- An absolute address as it is. Of any other one path and query are kept, and the path begins at
    the root. -/
def standalone (a : Address) : Except AddressFault Address :=
  if a.isAbsolute then .ok a
  else
    let path := String.ofList ('/' :: a.path.toList.dropWhile (· == '/'))
    revised ⟨"", "", path, a.query, none⟩

/-- An address with another query. -/
def withQuery (a : Address) (query : String) : Except AddressFault Address :=
  revised { a.parts with query := some query }

/-- An address with another fragment. -/
def withFragment (a : Address) (fragment : String) : Except AddressFault Address :=
  revised { a.parts with fragment := some fragment }

/-- An address with another host, which is given without brackets. -/
def withHost (a : Address) (host : String) : Except AddressFault Address :=
  revised a.parts (some (if host.toList.contains ':' then "[" ++ host ++ "]" else host))

/-- The host of an address as its owner writes it. A name that begins with an ASCII form is
    decoded. -/
def shownHost (a : Address) : Except Host.LabelFault String :=
  let cs := a.host.toList
  if Host.asciiStart.isPrefixOf cs then do return String.ofList (← Host.plainName cs)
  else .ok a.host

/-- The path of an address as it is meant; an empty one means the root. -/
def plainPath (a : Address) : String :=
  decodePercent (if a.path.isEmpty then "/" else a.path)

end Address

end Waypost
