/-
The frames of a SOCKS5 client, read by a server.

A server learns the length of every frame from the frame itself, so it can read
one off any stream that goes on behind it.
-/
import ProxyTunnel.Socks.Frame

set_option autoImplicit false

namespace ProxyTunnel.Socks

/-- The methods of a greeting, and the bytes after it. -/
def readGreeting : Bytes → Option (List Method × Bytes)
  | v :: bytes =>
    if v = version then
      (Item.readCounted bytes).map fun (codes, rest) => (codes.map Method.ofByte, rest)
    else none
  | [] => none

/-- The user name and the password of a frame, and the bytes after it. -/
def readCredentialsFrame : Bytes → Option ((Bytes × Bytes) × Bytes)
  | v :: bytes =>
    if v = credentialsVersion then do
      let (username, bytes) ← Item.readCounted bytes
      let (password, rest) ← Item.readCounted bytes
      return ((username, password), rest)
    else none
  | [] => none

/-- A request as a server reads it: the address is a type byte with the octets
of an IP address or the bytes of a host name. -/
structure Request where
  command : UInt8
  reserved : UInt8
  addressType : UInt8
  address : Bytes
  port : UInt16
  deriving DecidableEq

/-- The address of a known type, and the bytes after it. -/
def readAddress (type : UInt8) (bytes : Bytes) : Option (Bytes × Bytes) :=
  if type = nameType then Item.readCounted bytes
  else
    let length := if type = ip4Type then 4 else 16
    if (type = ip4Type ∨ type = ip6Type) ∧ length ≤ bytes.length then
      some (bytes.take length, bytes.drop length)
    else none

/-- The request of a frame, and the bytes after it. -/
def readRequest : Bytes → Option (Request × Bytes)
  | v :: command :: reserved :: type :: bytes =>
    if v = version then do
      let (address, bytes) ← readAddress type bytes
      match bytes with
      | high :: low :: rest =>
        let port := UInt16.ofNat (BigEndian.toNat [high, low])
        return (⟨command, reserved, type, address, port⟩, rest)
      | _ => none
    else none
  | _ => none

end ProxyTunnel.Socks
