/-
Destinations: where a tunnel leads, or where a proxy listens.

A destination is an endpoint, or a host name with a port that the proxy
resolves itself. Read from one text, an endpoint wins; any other text is a name
if it holds exactly one colon with something before it and a port after it.
Read from a host and a port, brackets around the host are ignored when it
spells an IP address, and any other host is a name as it stands.
-/
import ProxyTunnel.Address.Endpoint

set_option autoImplicit false

namespace ProxyTunnel

/-- Why a text names no address. -/
inductive AddressError where
  | invalid
  | unsupportedScheme (scheme : String)
  deriving DecidableEq

/-- The wording of an address error. -/
def AddressError.message : AddressError → String
  | invalid => "InvalidAddress"
  | unsupportedScheme scheme => s!"Unsupported proxy scheme: {scheme}"

/-- A host name or an endpoint. -/
inductive Destination where
  | named (host : String) (port : UInt16)
  | ip (endpoint : Endpoint)
  deriving DecidableEq

namespace Destination

/-- The port. -/
def port : Destination → UInt16
  | named _ port => port
  | ip endpoint => endpoint.port

/-- The characters of the written form. -/
def write : Destination → List Char
  | named host port => host.toList ++ Endpoint.writePort port
  | ip endpoint => endpoint.write

/-- The written form. -/
def text (destination : Destination) : String := String.ofList destination.write

/-- The unspecified destination. -/
def unspecified : Destination := ip (.ip4 ⟨0, 0, 0, 0⟩ 0)

/-! ## Reading -/

/-- A port with an optional plus sign. -/
def readPort? (text : List Char) : Option UInt16 :=
  (Decimal.readSigned? 65535 text).map UInt16.ofNat

/-- A name and a port with one colon between them. -/
def parseNamed? (text : List Char) : Option Destination :=
  match text.takeWhile (· ≠ ':'), text.dropWhile (· ≠ ':') with
  | c :: name, ':' :: port => (readPort? port).map (named (String.ofList (c :: name)))
  | _, _ => none

/-- The destination that a list of characters spells. -/
def ofChars? (text : List Char) : Option Destination :=
  ((Endpoint.parse? text).map ip).or (parseNamed? text)

/-- The destination that a text spells. -/
def parse (text : String) : Except AddressError Destination :=
  match ofChars? text.toList with
  | some destination => .ok destination
  | none => .error .invalid

/-- Square brackets. -/
def isBracket (c : Char) : Bool := c == '[' || c == ']'

/-- A text without the brackets at its ends. -/
def trimBrackets (text : List Char) : List Char :=
  ((text.dropWhile isBracket).reverse.dropWhile isBracket).reverse

/-- The destination of a host and a port. -/
def ofHost (host : String) (port : UInt16) : Except AddressError Destination :=
  if host.isEmpty then .error .invalid
  else match Endpoint.ofHost? (trimBrackets host.toList) port with
    | some endpoint => .ok (ip endpoint)
    | none => .ok (named host port)

end Destination

end ProxyTunnel
