/-
The frames a SOCKS5 client sends.

The greeting lists the methods of authentication the client knows. Credentials
and host names are ASCII behind one byte that holds their length, so that 255
characters is the most either can have. An address is a type byte and then four
octets, sixteen octets, or a host name; the port follows in two bytes, most
significant first.
-/
import ProxyTunnel.Address.Destination
import ProxyTunnel.Credentials
import ProxyTunnel.Socks.Codes
import ProxyTunnel.Wire.Item

set_option autoImplicit false

namespace ProxyTunnel.Socks

/-- The version of the protocol. -/
def version : UInt8 := 5

/-- The version of the exchange of credentials. -/
def credentialsVersion : UInt8 := 1

/-- The command that asks for a tunnel. -/
def connectCommand : UInt8 := 1

/-- The type byte of an IPv4 address. -/
def ip4Type : UInt8 := 1

/-- The type byte of a host name. -/
def nameType : UInt8 := 3

/-- The type byte of an IPv6 address. -/
def ip6Type : UInt8 := 4

/-- The methods that a client offers. -/
def offered (credentials : Option Credentials) : List Method :=
  match credentials with
  | some _ => [.noAuth, .usernamePassword]
  | none => [.noAuth]

/-- The first frame: version, and the methods behind their number. -/
def greeting (methods : List Method) : Bytes :=
  version :: UInt8.ofNat methods.length :: methods.map Method.toByte

/-- The frame that carries a user name and a password. -/
def credentialsFrame (c : Credentials) : Except WireError Bytes :=
  concatParts [.ok [credentialsVersion], Item.encodeCounted .ascii c.username,
    Item.encodeCounted .ascii c.password]

/-- An address as frames carry it, its type byte first. -/
def addressField : Destination → Except WireError Bytes
  | .ip (.ip4 ip _) => .ok (ip4Type :: ip.octets)
  | .ip (.ip6 ip _ _ _) => .ok (ip6Type :: ip.octets)
  | .named host _ => (Item.encodeCounted .ascii host).map (nameType :: ·)

/-- A port as frames carry it. -/
def portField (port : UInt16) : Bytes := BigEndian.ofNat 2 port.toNat

/-- The frame that asks for a tunnel to a destination. -/
def connectFrame (remote : Destination) : Except WireError Bytes :=
  concatParts [.ok [version, connectCommand, 0], addressField remote, .ok (portField remote.port)]

end ProxyTunnel.Socks
