/-
The answers of a SOCKS5 proxy and how they are framed.

The proxy first selects a method. If that is the exchange of credentials its
next answer is a verdict on them, else it is the answer to the request for a
tunnel; the framing follows the method selected, whether or not the client had
offered it.

The answer to the request is framed by a header of five bytes, which reaches
one byte into the address: for a host name that byte is its length. So the body
is one byte shorter than address and port together, or, for a name, as long as
its length byte tells and the port.
-/
import ProxyTunnel.Framing
import ProxyTunnel.Socks.Bound
import ProxyTunnel.Socks.Frame

set_option autoImplicit false

namespace ProxyTunnel.Socks

/-- An answer of the proxy. -/
inductive Answer where
  | method (code : UInt8)
  | verdict (version status : UInt8)
  | relay (status reserved : UInt8) (bound : Bound)
  deriving DecidableEq

namespace Answer

/-- The byte that decides how to go on. -/
def status : Answer → UInt8
  | method code => code
  | verdict _ status => status
  | relay status _ _ => status

/-- The proxy's own end of the tunnel, if the answer tells it. -/
def bound? : Answer → Option Bound
  | relay _ _ bound => some bound
  | _ => none

/-! ## The answer to a request -/

/-- How many bytes follow a header. -/
def bodyLength (header : Bytes) : Except WireError UInt64 :=
  let type := header.getD 3 0
  if type = ip4Type then .ok (4 - 1 + 2)
  else if type = ip6Type then .ok (16 - 1 + 2)
  else if type = nameType then .ok ((header.getD 4 0).toUInt64 + 2)
  else .error (.unknownAddressType type)

/-- The address that a type byte announces, and the bytes after it. -/
def readHost (type : UInt8) (bytes : Bytes) : Option (BoundHost × Bytes) :=
  if type = ip4Type then
    (Ip4.ofOctets? (bytes.take 4)).map fun ip => (.ip4 ip, bytes.drop 4)
  else if type = ip6Type then
    (Ip6.ofOctets? (bytes.take 16)).map fun ip => (.ip6 ip, bytes.drop 16)
  else if type = nameType then
    (Item.readCounted bytes).map fun (name, rest) => (.named (Utf8.decodeLossy name), rest)
  else none

/-- The address and port at the end of an answer, type byte first. -/
def readBound (bytes : Bytes) : Except WireError Bound :=
  let type := bytes.getD 0 0
  match readHost type (bytes.drop 1) with
  | some (host, rest) => .ok ⟨host, UInt16.ofNat (BigEndian.toNat (rest.take 2))⟩
  | none => .error (.unknownAddressType type)

/-- Decodes the answer to a request. -/
def ofRelayFrame (frame : Bytes) : Except WireError (Answer × Option (Framing Answer)) :=
  if frame.getD 0 0 ≠ version then .error (.wrongVersion (frame.getD 0 0))
  else (readBound (frame.drop 3)).map fun bound =>
    (relay (frame.getD 1 0) (frame.getD 2 0) bound, none)

/-- Frames the answer to a request. -/
def relayFraming : Framing Answer := .headed 5 bodyLength ofRelayFrame

/-! ## The answers before it -/

/-- Decodes a verdict on credentials; its version tells nothing. -/
def ofVerdictFrame (frame : Bytes) : Except WireError (Answer × Option (Framing Answer)) :=
  .ok (verdict (frame.getD 0 0) (frame.getD 1 0), some relayFraming)

/-- Frames a verdict on credentials. -/
def verdictFraming : Framing Answer := .fixed 2 ofVerdictFrame

/-- Decodes the selection of a method. -/
def ofMethodFrame (frame : Bytes) : Except WireError (Answer × Option (Framing Answer)) :=
  if frame.getD 0 0 ≠ version then .error (.wrongVersion (frame.getD 0 0))
  else
    let code := frame.getD 1 0
    -- what the client offered plays no part here
    .ok (method code,
      some (if code = Method.usernamePassword.toByte then verdictFraming else relayFraming))

/-- Frames the answers of a handshake, beginning with the first. -/
def framing : Framing Answer := .fixed 2 ofMethodFrame

end Answer

end ProxyTunnel.Socks
