/-
Why an attempt to reach a destination failed.

A failure names the layer it comes from and its cause there; the wording lives
in one function per layer. `Failure.kind` is the coarse class that callers can
act on without knowing the protocol.
-/
import ProxyTunnel.Address.Destination
import ProxyTunnel.Socks.Codes
import ProxyTunnel.Wire.Error

set_option autoImplicit false

namespace ProxyTunnel

/-! ## Failures of a socket -/

/-- What an operating system reports about a socket. -/
inductive SocketFault where
  | notFound | permissionDenied | connectionRefused | connectionReset | hostUnreachable
  | networkUnreachable | connectionAborted | notConnected | addrInUse | addrNotAvailable
  | networkDown | brokenPipe | alreadyExists | wouldBlock | invalidInput | invalidData
  | timedOut | writeZero | storageFull | resourceBusy | interrupted | unsupported
  | unexpectedEof | outOfMemory | other
  deriving DecidableEq

/-- A fault with its text. -/
structure SocketError where
  fault : SocketFault
  message : String
  deriving DecidableEq

/-- A write that took no byte of something. -/
def SocketError.wroteNothing : SocketError := ⟨.writeZero, "write zero"⟩

/-- Whether a fault of a write or flush means that nobody listens any more. -/
def SocketFault.isClosed : SocketFault → Bool
  | brokenPipe | connectionReset | writeZero => true
  | _ => false

/-! ## Refusals of a proxy -/

/-- Why an HTTP proxy's answer opens no tunnel. -/
inductive HttpRefusal where
  /-- The first line is no status line. -/
  | noStatusLine (line : String)
  | rejected (status : UInt16)
  deriving DecidableEq

/-- The wording of an HTTP refusal. -/
def HttpRefusal.message : HttpRefusal → String
  | noStatusLine line => s!"Invalid response: {line}"
  | rejected status => s!"Invalid status code {status}"

/-- Why a SOCKS5 proxy's answer opens no tunnel. -/
inductive SocksRefusal where
  | protocolViolation (detail : String)
  | credentialsRejected
  | rejected (reply : Socks.Reply)
  deriving DecidableEq

/-- The wording of a SOCKS5 refusal. -/
def SocksRefusal.message : SocksRefusal → String
  | protocolViolation detail => s!"failed to connect to proxy, protocol violation: {detail}"
  | credentialsRejected => "failed to connect to proxy, username/password combination rejected"
  | rejected reply => s!"failed to connect to proxy, {reply.reason}"

/-! ## Failures of an attempt -/

/-- Why an attempt failed. -/
inductive Failure where
  /-- The proxy was not reached. -/
  | transport (e : SocketError)
  | address (e : AddressError)
  | wire (e : WireError)
  | http (e : HttpRefusal)
  | socks (e : SocksRefusal)
  /-- The proxy ended the stream in the middle of the handshake. -/
  | closed
  | cancelled
  /-- The connection to the proxy broke. -/
  | socket (e : SocketError)
  deriving DecidableEq

/-- Classes of failures, independent of the protocol. -/
inductive FailureKind where
  | transport
  | protocolViolation
  | credentialsRejected
  | proxyRejected
  | invalidResponse
  | valueTooLarge
  | cancelled
  | invalidInput
  deriving DecidableEq

namespace Failure

/-- The wording of a failure. -/
def message : Failure → String
  | transport e => s!"Unable to reach proxy: {e.message}"
  | address e => s!"AddressError: {e.message}"
  | wire e => s!"CodecError: {e.message}"
  | http e => s!"HttpError: {e.message}"
  | socks e => s!"SocksError: {e.message}"
  | closed => "Connection closed by proxy"
  | cancelled => "Operation cancelled"
  | socket e => s!"IOError: {e.message}"

/-- The class of a failure. -/
def kind : Failure → FailureKind
  | transport _ | closed | socket _ => .transport
  | address _ => .invalidInput
  | wire (.tooLarge _) => .valueTooLarge
  | wire _ => .protocolViolation
  | http (.noStatusLine _) => .invalidResponse
  | http (.rejected _) => .proxyRejected
  | socks (.protocolViolation _) => .protocolViolation
  | socks .credentialsRejected => .credentialsRejected
  | socks (.rejected _) => .proxyRejected
  | cancelled => .cancelled

end Failure

end ProxyTunnel
