/-
Sessions with a proxy: what is sent, and the packages that arrive.

What is sent goes through a `Sender`. What arrives collects in a buffer until a
framing rule cuts packages off it. The rule always looks at the buffer first;
only if no frame is complete is the socket read, and only if the end of the
stream was not seen before and the buffer is still below the limit. So the
buffer never grows past the limit by more than one read
(`Limits.maxPackage`, `Limits.room`).

A package stream ends for good with its first error. The end of the socket's
stream ends it too, after every frame that was complete.

A session has one token. Sends look at it; reads do not. A supervised session is
driven by somebody who looks at the token too, first thing whenever the session
resumes after a wait, and gives up there.
-/
import ProxyTunnel.Framing
import ProxyTunnel.Sender
import ProxyTunnel.Tunnel

set_option autoImplicit false

namespace ProxyTunnel

/-- How much one read takes, and how much is buffered for one frame. -/
structure Limits where
  receiveSize : Nat
  maxPackage : Nat
  deriving DecidableEq

namespace Limits

/-- Four KiB a read, one MiB a package. -/
def standard : Limits := ⟨4096, 1048576⟩

/-- The bytes that one read has room for. -/
def room (limits : Limits) : Nat := max limits.receiveSize 1

end Limits

/-- A connection to a proxy while a handshake drives it. -/
structure Session where
  tunnel : Tunnel
  /-- The sender has given up on the socket. -/
  disposed : Bool
  /-- Bytes received and not yet cut off. -/
  buffer : Bytes
  /-- The end of the stream was seen. -/
  ended : Bool
  limits : Limits
  token : Nat
  supervised : Bool

namespace Session

/-- The token of an attempt. -/
def attemptToken : Nat := 0

/-- A session that starts on a tunnel. -/
def start (tunnel : Tunnel) (limits : Limits) (supervised : Bool) : Session where
  tunnel := tunnel
  disposed := false
  buffer := []
  ended := false
  limits := limits
  token := attemptToken
  supervised := supervised

/-- Everything that happened. -/
def journal (c : Session) : Journal := c.tunnel.socket.journal

/-- Whether the token has fired. -/
def hasFired (c : Session) : Bool := c.journal.hasFired c.token

/-- Tells callers something. -/
def note (n : Notice) (c : Session) : Session :=
  { c with tunnel := { c.tunnel with socket := c.tunnel.socket.record (.notice n) } }

/-! ## Sending -/

/-- The sending side. -/
def sender (c : Session) : Sender := ⟨c.tunnel.socket, c.disposed⟩

/-- The session with another sending side. -/
def withSender (c : Session) (s : Sender) : Session :=
  { c with tunnel := { c.tunnel with socket := s.socket }, disposed := s.disposed }

/-- Sends one frame. -/
def send (frame : Except WireError Bytes) (c : Session) : Except Failure Unit × Session :=
  let (result, s) := c.sender.send c.supervised c.token frame
  (result, c.withSender s)

/-! ## Receiving -/

/-- Whoever supervises the session gives up when the token has fired. -/
def giveUp (c : Session) (t : Tunnel) : Option (Except Failure Bytes) :=
  if c.supervised && t.socket.journal.hasFired c.token then some (.error .cancelled) else none

/-- Reads once, and tells which bytes arrived. -/
def fetch (c : Session) : Except Failure Bytes × Tunnel :=
  ((Tunnel.reading c.limits.room).map (·.mapError Failure.socket)).await c.giveUp c.tunnel

/-- A read that brought bytes has shortened the backlog. -/
theorem backlog_fetch_lt {c : Session} {bytes : Bytes} {t : Tunnel}
    (h : c.fetch = (.ok bytes, t)) (hne : bytes ≠ []) : t.backlog < c.tunnel.backlog := by
  have key := Tunnel.backlog_await_lt c.limits.room (·.mapError Failure.socket) c.giveUp
    (· = .ok bytes) ?_ ?_ c.tunnel
  · rw [show ((Tunnel.reading c.limits.room).map (·.mapError Failure.socket)).await c.giveUp
      c.tunnel = c.fetch from rfl, h] at key
    exact key rfl
  · intro r hr
    cases r with
    | error e => cases hr
    | ok b => exact ⟨b, rfl, by cases hr; exact hne⟩
  · intro t b hi
    unfold giveUp at hi
    split at hi
    · cases hi
      exact nofun
    · cases hi

variable {α : Type}

/-- The next package, if the stream has one. Without a rule the stream has
ended for good. -/
def next (rule : Option (Framing α)) (c : Session) :
    Option (Except Failure α) × Option (Framing α) × Session :=
  match rule with
  | none => (none, none, c)
  | some rule =>
    match rule.cut c.buffer with
    | ⟨.package content successor, rule, rest⟩ =>
      (some (.ok content), some (successor.getD rule), { c with buffer := rest })
    | ⟨.refused e, _, rest⟩ => (some (.error (.wire e)), none, { c with buffer := rest })
    | ⟨.waiting, rule, _⟩ =>
      -- no frame is complete: the end comes first, then the limit, and then the socket
      if c.ended then (none, some rule, c)
      else if c.limits.maxPackage ≤ c.buffer.length then
        (some (.error (.wire (.packageTooLarge c.limits.maxPackage))), none, c)
      else
        match _h : c.fetch with
        | (.error e, tunnel) => (some (.error e), none, { c with tunnel })
        | (.ok bytes, tunnel) =>
          if _hne : bytes = [] then (none, some rule, { c with tunnel, ended := true })
          else next (some rule) { c with tunnel, buffer := c.buffer ++ bytes }
termination_by c.tunnel.backlog
decreasing_by exact backlog_fetch_lt _h _hne

/-- The next package; the end of the stream is a failure. -/
def receive (rule : Option (Framing α)) (c : Session) :
    Except Failure α × Option (Framing α) × Session :=
  match c.next rule with
  | (some result, rule, c) => (result, rule, c)
  | (none, rule, c) => (.error .closed, rule, c)

/-- Bytes that are buffered or still to come. -/
def pendingBytes (c : Session) : Nat := c.buffer.length + c.tunnel.unread.length

/-- Receives packages up to and with the first that satisfies `last`. A package
that used up no byte could come back for ever; it ends the stream. -/
def skipTo (last : α → Bool) (rule : Option (Framing α)) (c : Session) :
    Except Failure Unit × Option (Framing α) × Session :=
  match c.receive rule with
  | (.error e, rule, c) => (.error e, rule, c)
  | (.ok content, rule, c') =>
    if last content then (.ok (), rule, c')
    else if _h : c'.pendingBytes < c.pendingBytes then skipTo last rule c'
    else (.error .closed, rule, c')
termination_by c.pendingBytes

/-! ## The end -/

/-- Closes a session: whatever the reason, its socket is shut down unless
the sender had given up on it. -/
def close (reason : CloseReason) (c : Session) : Session :=
  let c := c.note (.closing reason)
  c.withSender c.sender.dispose

/-- Hands the socket over for plain traffic. What is buffered is delivered
first. -/
def detach (c : Session) : Tunnel :=
  let c := c.note (.detaching c.buffer.length)
  { c.tunnel with replay := c.buffer ++ c.tunnel.replay }

/-! ## The journal only grows -/

/-- Whatever happened before is still in the journal, and a sender that had
given up still has. -/
def Follows (a b : Session) : Prop := a.sender.Follows b.sender

theorem Follows.refl (c : Session) : c.Follows c := Sender.Follows.refl _

theorem Follows.trans {a b c : Session} (h : a.Follows b) (h' : b.Follows c) : a.Follows c :=
  Sender.Follows.trans h h'

theorem follows_note (n : Notice) (c : Session) : c.Follows (c.note n) :=
  ⟨Socket.follows_record _ _, id⟩

theorem follows_send (frame : Except WireError Bytes) (c : Session) :
    c.Follows (c.send frame).2 :=
  Sender.follows_send c.supervised c.token frame c.sender

theorem follows_fetch (c : Session) : c.tunnel.socket.Follows c.fetch.2.socket :=
  Operation.await_keeps _ c.giveUp (fun a b => a.socket.Follows b.socket)
    (fun _ _ _ h h' => h.trans h') (fun t => Tunnel.follows_pollRead c.limits.room t) c.tunnel

theorem follows_of_fetch {c : Session} {result : Except Failure Bytes} {t : Tunnel}
    (h : c.fetch = (result, t)) : c.tunnel.socket.Follows t.socket := by
  have hf := follows_fetch c
  rwa [h] at hf

theorem follows_next (rule : Option (Framing α)) (c : Session) :
    c.Follows (c.next rule).2.2 := by
  fun_induction next rule c with
  | case1 => exact Follows.refl _
  | case2 => exact Follows.refl _
  | case3 => exact Follows.refl _
  | case4 => exact Follows.refl _
  | case5 => exact Follows.refl _
  | case6 c _ _ _ _ _ _ e tunnel h => exact ⟨follows_of_fetch h, id⟩
  | case7 c _ _ _ _ _ _ tunnel h => exact ⟨follows_of_fetch h, id⟩
  | case8 c _ _ _ _ _ _ bytes tunnel h _ ih =>
    have hf : c.Follows { c with tunnel, buffer := c.buffer ++ bytes } := ⟨follows_of_fetch h, id⟩
    exact hf.trans ih

theorem follows_receive (rule : Option (Framing α)) (c : Session) :
    c.Follows (c.receive rule).2.2 := by
  have h := follows_next rule c
  unfold receive
  split <;> rename_i heq <;> rw [heq] at h <;> exact h

theorem follows_skipTo (last : α → Bool) (rule : Option (Framing α)) (c : Session) :
    c.Follows (c.skipTo last rule).2.2 := by
  fun_induction skipTo last rule c with
  | case1 rule c e rule' c' h => simpa [h] using follows_receive rule c
  | case2 rule c content rule' c' h _ => simpa [h] using follows_receive rule c
  | case3 rule c content rule' c' h _ _ ih =>
    exact Follows.trans (by simpa [h] using follows_receive rule c) ih
  | case4 rule c content rule' c' h _ _ => simpa [h] using follows_receive rule c

theorem follows_close (reason : CloseReason) (c : Session) : c.Follows (c.close reason) :=
  (follows_note (.closing reason) c).trans
    (Sender.follows_dispose (c.note (.closing reason)).sender)

/-- Closing leaves the sender disposed. -/
@[simp] theorem disposed_close (reason : CloseReason) (c : Session) :
    (c.close reason).disposed = true :=
  Sender.disposed_dispose _

end Session

end ProxyTunnel
