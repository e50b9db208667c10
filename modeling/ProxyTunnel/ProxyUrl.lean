/-
Proxies named by one line of text: `[scheme://][user:password@]host:port[/]`.

The parts are taken apart from the left. A scheme is an ASCII word before
`://`. Credentials end at the first `@`, if a colon comes before it and no
slash does; if what follows them is no `host:port`, the whole is read again
without credentials. A host is a run of word characters, dots and hyphens, or
anything in square brackets; the port is a run of digits.

The scheme is looked at once the shape is right, and before the address: an
unknown scheme is reported in front of a port that is too large. The address is
then whatever destination `host:port` spells.
-/
import ProxyTunnel.Address.Destination
import ProxyTunnel.Credentials

set_option autoImplicit false

namespace ProxyTunnel

/-- The protocols a proxy may speak. -/
inductive ProxyKind where
  | socks5
  | http
  deriving DecidableEq

/-- A proxy: what it speaks, where it listens, and who asks. -/
structure ProxyUrl where
  kind : ProxyKind
  address : Destination
  credentials : Option Credentials
  deriving DecidableEq

namespace ProxyUrl

/-! ## The parts -/

/-- Letters of ASCII. -/
def isSchemeStart (c : Char) : Bool := c.isAlpha

/-- Characters of a scheme after its first. -/
def isSchemeChar (c : Char) : Bool := c.isAlphanum || c == '+' || c == '.' || c == '-'

/-- Characters of a user name. -/
def isUserChar (c : Char) : Bool := c != ':' && c != '@' && c != '/'

/-- Characters of a password. -/
def isPasswordChar (c : Char) : Bool := c != '@' && c != '/'

/-- Characters of a host name. -/
def isHostChar (c : Char) : Bool := Text.isWord c || c == '.' || c == '-'

/-- A scheme before `://`, and the text after it. -/
def readScheme (text : List Char) : Option (List Char × List Char) :=
  match text.takeWhile isSchemeChar, text.dropWhile isSchemeChar with
  | c :: scheme, ':' :: '/' :: '/' :: rest =>
    if isSchemeStart c then some (c :: scheme, rest) else none
  | _, _ => none

/-- Credentials before an `@`, and the text after it. -/
def readCredentials (text : List Char) : Option (Credentials × List Char) :=
  match text.takeWhile isUserChar, text.dropWhile isUserChar with
  | c :: user, ':' :: rest =>
    match rest.dropWhile isPasswordChar with
    | '@' :: after =>
      some (⟨String.ofList (c :: user), String.ofList (rest.takeWhile isPasswordChar)⟩, after)
    | _ => none
  | _, _ => none

/-- A host, brackets included, and the text after it. -/
def readHost : List Char → Option (List Char × List Char)
  | '[' :: text =>
    match text.takeWhile (· ≠ ']'), text.dropWhile (· ≠ ']') with
    | c :: inside, ']' :: rest => some ('[' :: c :: inside ++ [']'], rest)
    | _, _ => none
  | text =>
    match text.takeWhile isHostChar with
    | [] => none
    | host => some (host, text.dropWhile isHostChar)

/-- A colon and a port, with a slash or nothing after it. -/
def readPort : List Char → Option (List Char)
  | ':' :: text =>
    match text.takeWhile Text.isDigit, text.dropWhile Text.isDigit with
    | c :: port, [] => some (c :: port)
    | c :: port, ['/'] => some (c :: port)
    | _, _ => none
  | _ => none

/-- A host and a port that end a text. -/
def readAuthority (text : List Char) : Option (List Char × List Char) := do
  let (host, rest) ← readHost text
  let port ← readPort rest
  return (host, port)

/-- Credentials, if any, and the host and port that end a text. -/
def readUserAuthority (text : List Char) : Option (Option Credentials × List Char × List Char) :=
  ((readCredentials text).bind fun (credentials, rest) =>
    (readAuthority rest).map fun authority => (some credentials, authority)).or
  ((readAuthority text).map fun authority => (none, authority))

/-! ## The whole -/

/-- The protocol a scheme names, in any spelling of its letters. -/
def kindOfScheme? (scheme : String) : Option ProxyKind :=
  match scheme.toLower with
  | "socks5" => some .socks5
  | "socks5h" => some .socks5
  | "http" => some .http
  | _ => none

/-- The protocol of an optional scheme; without one it is HTTP. -/
def kindOf : Option (List Char) → Except AddressError ProxyKind
  | none => .ok .http
  | some scheme =>
    match kindOfScheme? (String.ofList scheme) with
    | some kind => .ok kind
    | none => .error (.unsupportedScheme (String.ofList scheme))

/-- The scheme and the text after it, the whole text if there is no scheme. -/
def splitScheme (text : List Char) : Option (List Char) × List Char :=
  match readScheme text with
  | some (scheme, rest) => (some scheme, rest)
  | none => (none, text)

/-- The proxy that a text names. -/
def parse (text : String) : Except AddressError ProxyUrl :=
  let (scheme, rest) := splitScheme text.toList
  match readUserAuthority rest with
  | none => .error .invalid
  | some (credentials, host, port) => do
    -- the scheme is judged before the address
    let kind ← kindOf scheme
    match Destination.ofChars? (host ++ ':' :: port) with
    | some address => .ok ⟨kind, address, credentials⟩
    | none => .error .invalid

end ProxyUrl

end ProxyTunnel
