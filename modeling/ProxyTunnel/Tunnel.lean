/-
Tunnels: a socket for plain traffic, and bytes that were read ahead of it.

Whoever drove a handshake may have received more than the handshake needed.
Those bytes belong to the traffic: reads deliver them first, without touching
the socket, and only then what arrives. Writes go straight to the socket.
-/
import ProxyTunnel.Socket

set_option autoImplicit false

namespace ProxyTunnel

/-- A socket, and the bytes to deliver before its own. -/
structure Tunnel where
  socket : Socket
  replay : Bytes

namespace Tunnel

/-- A socket with nothing read ahead. -/
def ofSocket (socket : Socket) : Tunnel := ⟨socket, []⟩

/-- The bytes that reads have still to deliver. -/
def unread (t : Tunnel) : Bytes := t.replay ++ t.socket.unread

/-- Everything a reader may still have to wait for. -/
def backlog (t : Tunnel) : Nat := t.replay.length + t.socket.backlog

/-- Takes a tunnel apart: the socket, and the bytes that were read ahead of it
and not delivered. -/
def intoParts (t : Tunnel) : Socket × Bytes := (t.socket, t.replay)

/-! ## Attempts -/

/-- Attempts a read of at most `room` bytes. -/
def pollRead (room : Nat) (t : Tunnel) : Poll (Except SocketError Bytes) × Tunnel :=
  if t.replay.isEmpty then
    let (answer, socket) := t.socket.pollRead room
    (answer, { t with socket })
  else (.ready (.ok (t.replay.take room)), { t with replay := t.replay.drop room })

theorem stepsLeft_pollRead_lt (room : Nat) (t : Tunnel) (h : (t.pollRead room).1 = .pending) :
    (t.pollRead room).2.socket.stepsLeft < t.socket.stepsLeft := by
  unfold pollRead at h ⊢
  split at h
  · rename_i he
    simpa [he] using Socket.stepsLeft_pollRead_lt room t.socket h
  · cases h

theorem stepsLeft_pollRead_le (room : Nat) (t : Tunnel) :
    (t.pollRead room).2.socket.stepsLeft ≤ t.socket.stepsLeft := by
  unfold pollRead
  split
  · exact Socket.stepsLeft_pollRead_le room t.socket
  · exact Nat.le_refl _

/-- The bytes that arrive are the next ones of the tunnel. -/
theorem unread_pollRead (room : Nat) (t : Tunnel) :
    t.unread = Socket.received (t.pollRead room).1 ++ (t.pollRead room).2.unread := by
  unfold pollRead
  split
  · simpa [unread, List.isEmpty_iff.1 (by assumption)] using Socket.unread_pollRead room t.socket
  · simp only [unread, Socket.received]
    rw [← List.append_assoc, List.take_append_drop]

theorem backlog_pollRead_le (room : Nat) (t : Tunnel) :
    (t.pollRead room).2.backlog ≤ t.backlog := by
  have h := Socket.backlog_pollRead_le room t.socket
  unfold pollRead
  split <;> simp only [backlog, List.length_drop] <;> omega

theorem backlog_pollRead_lt (room : Nat) (t : Tunnel)
    (h : Socket.received (t.pollRead room).1 ≠ []) :
    (t.pollRead room).2.backlog < t.backlog := by
  unfold pollRead at h ⊢
  split at h
  · rename_i he
    have := Socket.backlog_pollRead_lt room t.socket h
    simp only [he, if_true, backlog]
    omega
  · rename_i he
    have := List.length_pos_iff.2 h
    simp only [Socket.received, List.length_take] at this
    simp only [he, backlog, List.length_drop, if_false, Bool.false_eq_true]
    omega

theorem follows_pollRead (room : Nat) (t : Tunnel) :
    t.socket.Follows (t.pollRead room).2.socket := by
  unfold pollRead
  split
  · exact Socket.follows_pollRead room t.socket
  · exact Socket.Follows.refl _

/-! ## Plain traffic -/

/-- A read of at most `room` bytes. -/
def reading (room : Nat) : Operation Tunnel (Except SocketError Bytes) :=
  ⟨pollRead room, fun t => t.socket.stepsLeft, stepsLeft_pollRead_lt room⟩

/-- Reads at most `room` bytes; none at the end of the stream. -/
def read (room : Nat) (t : Tunnel) : Except SocketError Bytes × Tunnel :=
  ((reading room).map id).run t

/-- A wait for a read that brought bytes has shortened the backlog. `done` tells
such a result from all others. -/
theorem backlog_await_lt {β : Type} (room : Nat) (f : Except SocketError Bytes → β)
    (interrupt : Tunnel → Option β) (done : β → Prop)
    (hf : ∀ r, done (f r) → ∃ bytes, r = .ok bytes ∧ bytes ≠ [])
    (hi : ∀ t b, interrupt t = some b → ¬ done b) (t : Tunnel)
    (h : done (((reading room).map f).await interrupt t).1) :
    (((reading room).map f).await interrupt t).2.backlog < t.backlog := by
  revert h
  refine Operation.await_rec _ interrupt
    (motive := fun t r => done r.1 → r.2.backlog < t.backlog) ?_ ?_ ?_ t
  · intro t value t' ha hd
    have hlt := backlog_pollRead_lt room t
    simp only [Operation.map, reading, Prod.mk.injEq] at ha
    obtain ⟨hv, rfl⟩ := ha
    cases hp : (t.pollRead room).1 with
    | pending => simp [hp, Poll.map] at hv
    | ready r =>
      simp only [hp, Poll.map, Poll.ready.injEq] at hv
      obtain ⟨bytes, rfl, hne⟩ := hf r (hv ▸ hd)
      exact hlt (by simpa [hp, Socket.received] using hne)
  · intro t value t' _ hint hd
    exact absurd hd (hi t' value hint)
  · intro t t' r ha _ ih hd
    have hle := backlog_pollRead_le room t
    simp only [Operation.map, reading, Prod.mk.injEq] at ha
    rw [ha.2] at hle
    exact Nat.lt_of_lt_of_le (ih hd) hle

/-- A read that brought bytes has shortened the backlog. -/
theorem backlog_read_lt {room : Nat} {t t' : Tunnel} {bytes : Bytes}
    (h : t.read room = (.ok bytes, t')) (hne : bytes ≠ []) : t'.backlog < t.backlog := by
  have key := backlog_await_lt room id (fun _ => none) (· = .ok bytes)
    (fun r hr => ⟨bytes, hr, hne⟩) (fun _ _ hi => nomatch hi) t
  rw [show t.read room = ((reading room).map id).await (fun _ => none) t from rfl] at h
  rw [h] at key
  exact key rfl

/-- Reads, at most `room` bytes at a time, until a read brings none. -/
def readToEnd (room : Nat) (t : Tunnel) : Except SocketError Bytes × Tunnel :=
  match _h : t.read room with
  | (.error e, t') => (.error e, t')
  | (.ok bytes, t') =>
    if _hne : bytes = [] then (.ok [], t')
    else
      let (more, t'') := readToEnd room t'
      (more.map (bytes ++ ·), t'')
termination_by t.backlog
decreasing_by exact backlog_read_lt _h _hne

/-- Replaces the socket by what an operation left of it. -/
def onSocket {α : Type} (t : Tunnel) (result : α × Socket) : α × Tunnel :=
  (result.1, { t with socket := result.2 })

/-- One write, and how many bytes it took. -/
def write (bytes : Bytes) (t : Tunnel) : Except SocketError Nat × Tunnel :=
  t.onSocket ((Socket.writing bytes).run t.socket)

/-- Writes all bytes. -/
def writeAll (bytes : Bytes) (t : Tunnel) : Except SocketError Unit × Tunnel :=
  t.onSocket (t.socket.writeAll bytes)

/-- Flushes. -/
def flush (t : Tunnel) : Except SocketError Unit × Tunnel :=
  t.onSocket (Socket.flushing.run t.socket)

/-- Shuts the socket down. -/
def shutDown (t : Tunnel) : Except SocketError Unit × Tunnel :=
  t.onSocket (Socket.shuttingDown.run t.socket)

end Tunnel

end ProxyTunnel
