/-
The journal of a run: everything that happened, in order.

It records what reached the socket and how that ended (`Event`), what callers
are told (`Notice`), and what neither shows but decides the rest: a token that
fires, a task that yields because nothing was ready, a transport that opens.
Operations only ever append to it, so statements about before and after are
statements about a list.
-/
import ProxyTunnel.Failure
import ProxyTunnel.Socks.Bound

set_option autoImplicit false

namespace ProxyTunnel

/-! ## Events -/

/-- What reached the socket, and how it ended. -/
inductive Event where
  /-- So many bytes were read, none at the end of the stream. -/
  | read (count : Nat)
  | readFailed (fault : SocketFault)
  | wrote (bytes : Bytes)
  | writeFailed (fault : SocketFault)
  | flushed
  | flushFailed (fault : SocketFault)
  | shutDown
  | shutDownFailed (fault : SocketFault)
  deriving DecidableEq

/-! ## Notices -/

/-- Why a session is closed. A failed handshake counts as an error of the
protocol, a cancelled one too. -/
inductive CloseReason where
  | protocolError
  | localClosing
  deriving DecidableEq

/-- The name of a reason. -/
def CloseReason.name : CloseReason → String
  | protocolError => "ProtocolError"
  | localClosing => "LocalClosing"

/-- How much a notice matters. -/
inductive Severity where
  | debug
  | warn
  deriving DecidableEq

/-- What callers are told about a run. -/
inductive Notice where
  | sinkClosed (e : SocketError)
  | shutDownFailed (e : SocketError)
  | closing (reason : CloseReason)
  | detaching (buffered : Nat)
  | acceptedWithoutAuth
  | authenticating (username : String)
  | requesting (remote : Destination)
  /-- The proxy relays, and reports its own end if it knows it. -/
  | relaying (remote : Destination) (bound : Option Socks.Bound)
  | httpAnswered (line : String)
  | established (remote proxy : Destination)
  | proxyUnreachable (proxy : Destination) (e : SocketError)
  | handshakeFailed (proxy remote : Destination) (cause : Failure)
  deriving DecidableEq

namespace Notice

/-- Failures to reach a destination matter to callers, the rest is detail. -/
def severity : Notice → Severity
  | proxyUnreachable .. | handshakeFailed .. => .warn
  | _ => .debug

/-- The wording of a notice. -/
def message : Notice → String
  | sinkClosed e => s!"sink closed, disposing writer: {e.message}"
  | shutDownFailed e => s!"shutdown failed while disposing writer: {e.message}"
  | closing reason => s!"closing proxy connection: {reason.name}"
  | detaching buffered => s!"detaching proxy connection with {buffered} buffered bytes"
  | acceptedWithoutAuth => "socks5 proxy accepted without authentication"
  | authenticating username => s!"authenticating to socks5 proxy as {username}"
  | requesting remote => s!"requesting socks5 connect to {remote.text}"
  | relaying remote _ => s!"socks5 tunnel to {remote.text} established"
  | httpAnswered line => s!"http proxy answered: {line}"
  | established remote proxy => s!"tunnel to {remote.text} via {proxy.text} established"
  | proxyUnreachable proxy e => s!"unable to reach proxy {proxy.text}: {e.message}"
  | handshakeFailed proxy remote cause =>
    s!"proxy handshake with {proxy.text} for {remote.text} failed: {cause.message}"

end Notice

/-! ## Journals -/

/-- One thing that happened. -/
inductive Entry where
  | event (e : Event)
  | notice (n : Notice)
  /-- A cancellation token fired. -/
  | fired (token : Nat)
  /-- Nothing was ready, and the task gave way before it went on. -/
  | yielded
  /-- The transport to the proxy opened. -/
  | opened
  deriving DecidableEq

/-- Everything that happened, in order. -/
abbrev Journal := List Entry

namespace Journal

/-- The event of an entry. -/
def event? : Entry → Option Event
  | .event e => some e
  | _ => none

/-- The notice of an entry. -/
def notice? : Entry → Option Notice
  | .notice n => some n
  | _ => none

/-- What reached the socket. -/
def events (journal : Journal) : List Event := journal.filterMap event?

/-- What callers were told. -/
def notices (journal : Journal) : List Notice := journal.filterMap notice?

/-- Whether a token has fired. -/
def hasFired (journal : Journal) (token : Nat) : Bool :=
  journal.contains (.fired token)

/-- The bytes an event took to the other side. -/
def writtenBy : Event → Bytes
  | .wrote bytes => bytes
  | _ => []

/-- All bytes the socket took, in order. -/
def written (journal : Journal) : Bytes := journal.events.flatMap writtenBy

@[simp] theorem events_append (a b : Journal) : events (a ++ b) = events a ++ events b :=
  List.filterMap_append

@[simp] theorem notices_append (a b : Journal) : notices (a ++ b) = notices a ++ notices b :=
  List.filterMap_append

@[simp] theorem written_append (a b : Journal) : written (a ++ b) = written a ++ written b := by
  simp [written]

/-- A token that has fired stays so. -/
theorem hasFired_append {a : Journal} {token : Nat} (b : Journal) (h : hasFired a token) :
    hasFired (a ++ b) token := by
  simp_all [hasFired]

end Journal

end ProxyTunnel
