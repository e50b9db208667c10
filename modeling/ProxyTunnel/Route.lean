/-
Routes: from a destination to a tunnel, or to the cause of failure.

A route leads through one proxy. An attempt on it has two phases: the transport
to the proxy is opened, and the handshake runs on it. The token of the attempt
is looked at before anything else, at the start of each phase, and whenever a
phase resumes after a wait. A handshake that succeeds hands over the tunnel; one
that fails or is cancelled closes the session. Nothing that happens while
closing changes the cause.
-/
import ProxyTunnel.Handshake

set_option autoImplicit false

namespace ProxyTunnel

/-- How the transport to a proxy is opened. -/
structure TransportOptions where
  /-- Small writes go out at once. -/
  noDelay : Bool
  timeoutMillis : Option Nat
  deriving DecidableEq

/-- Small writes go out at once, and nothing limits how long opening takes. -/
def TransportOptions.standard : TransportOptions := ⟨true, none⟩

/-- A way to destinations: through which proxy, and how to talk to it. -/
structure Route where
  proxy : Destination
  handshake : Handshake
  limits : Limits

/-- The end of an attempt: a tunnel, or a cause and what is left of the socket. -/
inductive Outcome where
  | established (tunnel : Tunnel)
  | failed (cause : Failure) (socket : Socket)

namespace Outcome

/-- Everything that happened. -/
def journal : Outcome → Journal
  | established tunnel => tunnel.socket.journal
  | failed _ socket => socket.journal

/-- The cause of failure. -/
def cause? : Outcome → Option Failure
  | established _ => none
  | failed cause _ => some cause

end Outcome

namespace Route

/-- The route through a proxy named by a text, with the standard limits. -/
def ofUrl (url : ProxyUrl) : Route :=
  ⟨url.address, ⟨url.kind, url.credentials⟩, .standard⟩

/-- Whether a route leads through the proxy at an address. -/
def proxyIs (k : Route) (address : Destination) : Bool := k.proxy == address

/-! ## The transport -/

/-- Opening the transport: a script and the journal of the run. -/
def dialing : Operation (Script Unit × Journal) (Except SocketError Unit) :=
  ⟨fun s => Script.poll () s.1 s.2, fun s => s.1.length,
    fun s => Script.length_poll_lt () s.1 s.2⟩

/-- Opens the transport, unless the token fires while that takes its time. -/
def dial (script : Script Unit) (journal : Journal) :
    Option (Except SocketError Unit) × Script Unit × Journal :=
  (dialing.map some).await
    (fun s => if s.2.hasFired Session.attemptToken then some none else none) (script, journal)

/-! ## The attempt -/

/-- Negotiates, unless the token has fired already. -/
def negotiate (k : Route) (remote : Destination) (c : Session) :
    Except Failure Unit × Session :=
  if c.hasFired then (.error .cancelled, c) else k.handshake.negotiate remote c

/-- Ends an attempt as its handshake ended. -/
def conclude (k : Route) (remote : Destination) :
    Except Failure Unit × Session → Outcome
  | (.ok (), c) => .established (c.note (.established remote k.proxy)).detach
  | (.error cause, c) =>
    let noted := c.note (.handshakeFailed k.proxy remote cause)
    .failed cause (noted.close .protocolError).tunnel.socket

/-- Runs the handshake on a transport that has just opened. -/
def proceed (k : Route) (remote : Destination) (transport : Tunnel) : Outcome :=
  let opened := { transport with socket := transport.socket.record .opened }
  k.conclude remote (k.negotiate remote (.start opened k.limits true))

/-- Connects to a destination over a transport that, once open, is the given
tunnel. -/
def connectTo (k : Route) (remote : Destination) (script : Script Unit) (transport : Tunnel) :
    Outcome :=
  match dial script transport.socket.journal with
  | (none, _, journal) => .failed .cancelled { transport.socket with journal }
  | (some (.error e), _, journal) =>
    let socket := { transport.socket with journal }
    .failed (.transport e) (socket.record (.notice (.proxyUnreachable k.proxy e)))
  | (some (.ok ()), _, journal) =>
    k.proceed remote { transport with socket := { transport.socket with journal } }

/-- Connects to a destination that may turn out to be none. The token comes
first, the destination second. -/
def connect (k : Route) (remote : Except AddressError Destination) (script : Script Unit)
    (transport : Tunnel) : Outcome :=
  if transport.socket.journal.hasFired Session.attemptToken then
    .failed .cancelled transport.socket
  else match remote with
    | .error e => .failed (.address e) transport.socket
    | .ok remote => k.connectTo remote script transport

/-! ## The journal only grows -/

theorem journal_dial_grows (script : Script Unit) (journal : Journal) :
    journal <+: (dial script journal).2.2 :=
  (dialing.map some).await_keeps _ (fun a b : Script Unit × Journal => a.2 <+: b.2)
    (fun _ _ _ h h' => h.trans h') (fun s => Script.journal_poll_grows () s.1 s.2) (script, journal)

theorem follows_negotiate (k : Route) (remote : Destination) (c : Session) :
    c.Follows (k.negotiate remote c).2 := by
  unfold negotiate
  split
  · exact Session.Follows.refl c
  · exact k.handshake.follows_negotiate remote c

theorem journal_conclude_grows (k : Route) (remote : Destination)
    (result : Except Failure Unit × Session) :
    result.2.journal <+: (k.conclude remote result).journal := by
  unfold conclude
  split
  · exact ((Session.follows_note _ _).trans (Session.follows_note _ _)).1
  · exact ((Session.follows_note _ _).trans (Session.follows_close _ _)).1

theorem journal_proceed_grows (k : Route) (remote : Destination) (transport : Tunnel) :
    transport.socket.journal <+: (k.proceed remote transport).journal := by
  unfold proceed
  dsimp only
  have h := follows_negotiate k remote
    (.start { transport with socket := transport.socket.record .opened } k.limits true)
  exact List.IsPrefix.trans ((Socket.follows_record transport.socket .opened).trans h.1)
    (journal_conclude_grows k remote _)

/-- An attempt forgets nothing of what happened before it. -/
theorem journal_connect_grows (k : Route) (remote : Except AddressError Destination)
    (script : Script Unit) (transport : Tunnel) :
    transport.socket.journal <+: (k.connect remote script transport).journal := by
  unfold connect
  split
  · exact List.prefix_refl _
  · split
    · exact List.prefix_refl _
    · rename_i remote
      have h := journal_dial_grows script transport.socket.journal
      unfold connectTo
      split <;> rename_i heq <;> rw [heq] at h
      · exact h
      · exact h.trans (List.prefix_append _ _)
      · rename_i journal
        exact h.trans (journal_proceed_grows k remote
          ⟨{ transport.socket with journal }, transport.replay⟩)

end Route

end ProxyTunnel
