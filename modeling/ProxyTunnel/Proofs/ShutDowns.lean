/-
Nothing sees how a shutdown will go before it is made.

Two sockets that differ only in what their shutdowns will do answer every read,
write and flush alike, and differ only in that afterwards: another script for them
is a disguise (`Disguise.ending`). So an attempt on a route fails for the same cause
with both (`Route.cause_ending`).
-/
import ProxyTunnel.Proofs.Attempt
import ProxyTunnel.Proofs.Disguise

set_option autoImplicit false

namespace ProxyTunnel

/-- The socket whose shutdowns follow another script. -/
def Socket.ending (script : Script Unit) (s : Socket) : Socket := { s with shutDowns := script }

/-- The tunnel whose shutdowns follow another script. -/
def Tunnel.ending (script : Script Unit) (t : Tunnel) : Tunnel :=
  { t with socket := t.socket.ending script }

/-- Other shutdowns go unnoticed until one is made. -/
def Disguise.ending (script : Script Unit) : Disguise where
  socket := Socket.ending script
  bytes := id
  length_bytes _ := rfl
  bytes_drop _ _ := rfl
  hasFired_socket _ _ := rfl
  unread_socket _ := rfl
  record_socket _ _ := rfl
  pollRead_socket room s := by
    change Socket.pollRead room { s with shutDowns := script } = _
    unfold Socket.pollRead
    rcases Script.poll [] s.reads s.journal with ⟨(e | bytes) | _, reads, journal⟩ <;> rfl
  pollWrite_socket bytes s := by
    change Socket.pollWrite bytes { s with shutDowns := script } = _
    unfold Socket.pollWrite
    rcases Script.poll none s.writes s.journal with ⟨(e | limit) | _, writes, journal⟩ <;> rfl
  pollFlush_socket s := by
    change Socket.pollFlush { s with shutDowns := script } = _
    unfold Socket.pollFlush
    rcases Script.poll () s.flushes s.journal with ⟨(e | _) | _, flushes, journal⟩ <;> rfl

namespace Route

variable (script : Script Unit)

theorem negotiate_ending (k : Route) (remote : Destination) (c : Session) :
    k.negotiate remote ((Disguise.ending script).session c) =
      ((k.negotiate remote c).1, (Disguise.ending script).session (k.negotiate remote c).2) := by
  have hsame : ∀ {α : Type} (x : Dialogue α), (Disguise.ending script).dialogue x = x :=
    fun x => (Disguise.ending script).dialogue_eq_self (fun _ => rfl) x
  have hrun : ∀ {α : Type} (x : Dialogue α) (rule : Option (Framing α)),
      x.run rule ((Disguise.ending script).session c) =
        ((x.run rule c).1, (Disguise.ending script).session (x.run rule c).2) := by
    intro α x rule
    have key := (Disguise.ending script).run_dialogue x rule c
    rwa [hsame] at key
  have hfired : ((Disguise.ending script).session c).hasFired = c.hasFired := rfl
  unfold negotiate
  rw [hfired]
  split
  · rfl
  · unfold Handshake.negotiate
    split
    · exact hrun _ _
    · exact hrun _ _

/-- The cause of failure of an attempt whose handshake came to this. -/
theorem cause_conclude (k : Route) (remote : Destination) (result : Except Failure Unit)
    (c : Session) : (k.conclude remote (result, c)).cause? =
      match result with
      | .ok () => none
      | .error cause => some cause := by
  rcases result with e | ⟨⟩ <;> rfl

/-- **The outcome of a shutdown never changes the cause** of a failed attempt. -/
theorem cause_ending (k : Route) (remote : Except AddressError Destination) (dialing : Script Unit)
    (transport : Tunnel) :
    (k.connect remote dialing (transport.ending script)).cause? =
      (k.connect remote dialing transport).cause? := by
  have hjournal : (transport.ending script).socket.journal = transport.socket.journal := rfl
  unfold connect
  rw [hjournal]
  split
  · rfl
  rcases remote with e | remote
  · rfl
  dsimp only
  unfold connectTo
  rw [hjournal]
  rcases dial dialing transport.socket.journal with ⟨_ | (e | ⟨⟩), left, journal⟩
  · rfl
  · rfl
  · change (k.conclude remote (k.negotiate remote
      ((Disguise.ending script).session (k.opened transport journal)))).cause? =
        (k.conclude remote (k.negotiate remote (k.opened transport journal))).cause?
    rw [negotiate_ending, cause_conclude]
    exact (cause_conclude k remote _ _).symm

end Route

end ProxyTunnel
