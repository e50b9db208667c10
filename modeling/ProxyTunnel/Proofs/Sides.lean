/-
The sides of a socket, kept apart.

A sender writes and flushes, a receiver reads, and only the end of a session
shuts the socket down. `Journal.GainsOnly` says of two journals that nothing but
events of one kind lies between them, and every operation of a socket or a
sender gets its own kind. A run that consists of such operations is then read
side by side: what was sent is what the sending operations added.
-/
import ProxyTunnel.Proofs.Transmission

set_option autoImplicit false

namespace ProxyTunnel

open Event

/-! ## Kinds of events -/

namespace Event

/-- Events of the sending side. -/
def isSent : Event → Bool
  | wrote _ | writeFailed _ | flushed | flushFailed _ => true
  | _ => false

/-- The outcome of a shutdown. -/
def isShutDown : Event → Bool
  | shutDown | shutDownFailed _ => true
  | _ => false

theorem isSent_of_isShutDown {e : Event} (h : e.isShutDown = true) : e.isSent = false := by
  cases e <;> first | rfl | cases h

theorem isShutDown_of_isSent {e : Event} (h : e.isSent = true) : e.isShutDown = false := by
  cases e <;> first | rfl | cases h

theorem isShutDown_of_isRead {e : Event} (h : e.isRead = true) : e.isShutDown = false := by
  cases e <;> first | rfl | cases h

end Event

namespace Journal

/-- The second journal goes on from the first, with events of one kind only. -/
def GainsOnly (kind : Event → Bool) (a b : Journal) : Prop :=
  ∃ events, a.Gains b events ∧ events.all kind = true

variable {kind : Event → Bool} {a b c : Journal} {events : List Event}

theorem Gains.only (h : a.Gains b events) (hall : events.all kind = true) : a.GainsOnly kind b :=
  ⟨events, h, hall⟩

/-- Two journals tell which events lie between them. -/
theorem Gains.unique {events' : List Event} (h : a.Gains b events) (h' : a.Gains b events') :
    events = events' :=
  List.append_cancel_left (h.events_eq.symm.trans h'.events_eq)

theorem GainsOnly.all (h : a.GainsOnly kind b) (hg : a.Gains b events) :
    events.all kind = true := by
  obtain ⟨events', hg', hall⟩ := h
  rw [hg.unique hg']
  exact hall

theorem GainsOnly.refl (kind : Event → Bool) (a : Journal) : a.GainsOnly kind a :=
  ⟨[], Gains.refl a, rfl⟩

theorem GainsOnly.grows (h : a.GainsOnly kind b) : a <+: b := by
  obtain ⟨_, ⟨added, rfl, _⟩, _⟩ := h
  exact List.prefix_append a added

theorem GainsOnly.trans (h : a.GainsOnly kind b) (h' : b.GainsOnly kind c) :
    a.GainsOnly kind c := by
  obtain ⟨xs, hg, hx⟩ := h
  obtain ⟨ys, hg', hy⟩ := h'
  refine ⟨xs ++ ys, hg.trans hg', ?_⟩
  rw [List.all_append, hx, hy]
  rfl

/-- One event more. -/
theorem GainsOnly.event (h : a.GainsOnly kind b) {e : Event} (he : kind e = true) :
    a.GainsOnly kind (b ++ [.event e]) :=
  h.trans ⟨[e], ⟨[.event e], rfl, rfl⟩, by rw [List.all_cons, he]; rfl⟩

/-- A notice is no event. -/
theorem GainsOnly.notice (h : a.GainsOnly kind b) (n : Notice) :
    a.GainsOnly kind (b ++ [.notice n]) :=
  h.trans ((Gains.refl b).notice n |>.only rfl)

end Journal

/-! ## Sockets -/

namespace Socket

theorem gainsOnly_pollWrite (bytes : Bytes) (s : Socket) :
    s.journal.GainsOnly isSent (s.pollWrite bytes).2.journal := by
  obtain ⟨_, h, hg⟩ | ⟨_, _, h, hg⟩ | ⟨_, _, h, _, hg⟩ := gains_pollWrite bytes s
  all_goals rw [h]; exact hg.only rfl

theorem gainsOnly_pollFlush (s : Socket) : s.journal.GainsOnly isSent s.pollFlush.2.journal := by
  obtain ⟨_, h, hg⟩ | ⟨_, _, h, hg⟩ | ⟨_, h, hg⟩ := gains_pollFlush s
  all_goals rw [h]; exact hg.only rfl

theorem gainsOnly_pollWriteAll (bytes : Bytes) (s : Socket) :
    s.journal.GainsOnly isSent (s.pollWriteAll bytes).2.2.journal := by
  fun_induction pollWriteAll bytes s with
  | case1 => exact .refl _ _
  | case2 bytes s _ s' h => simpa only [h] using gainsOnly_pollWrite bytes s
  | case3 bytes s _ e s' h _ ih =>
    have hone := gainsOnly_pollWrite bytes s
    rw [h] at hone
    exact hone.trans ih
  | case4 bytes s _ e s' h => simpa only [h] using gainsOnly_pollWrite bytes s
  | case5 bytes s _ s' h => simpa only [h] using gainsOnly_pollWrite bytes s
  | case6 bytes s _ count s' h _ ih =>
    have hone := gainsOnly_pollWrite bytes s
    rw [h] at hone
    exact hone.trans ih

theorem gainsOnly_pollTransmit (bytes : Bytes) (s : Socket) :
    s.journal.GainsOnly isSent (s.pollTransmit bytes).2.2.journal := by
  have h := gainsOnly_pollWriteAll bytes s
  unfold pollTransmit
  rcases hw : s.pollWriteAll bytes with ⟨(e | ⟨⟩) | _, rest, s'⟩
  all_goals rw [hw] at h
  · exact h
  · exact h.trans (gainsOnly_pollFlush s')
  · exact h

/-- A shutdown is over with its one event, and before that there is none. -/
theorem gains_pollShutDown (s : Socket) :
    (∃ s', s.pollShutDown = (.pending, s') ∧ s.journal.Gains s'.journal []) ∨
    (∃ e s', s.pollShutDown = (.ready (.error e), s') ∧
      s.journal.Gains s'.journal [.shutDownFailed e.fault]) ∨
    (∃ s', s.pollShutDown = (.ready (.ok ()), s') ∧ s.journal.Gains s'.journal [.shutDown]) := by
  have h := Script.gains_poll () s.shutDowns s.journal
  unfold pollShutDown
  rcases hp : Script.poll () s.shutDowns s.journal with ⟨(e | _) | _, shutDowns, journal⟩
  all_goals rw [hp] at h
  · exact .inr (.inl ⟨e, _, rfl, h.event _⟩)
  · exact .inr (.inr ⟨_, rfl, h.event _⟩)
  · exact .inl ⟨_, rfl, h⟩

/-- Shutting down ends with one event, however long it takes. -/
theorem gains_shuttingDown (s : Socket) :
    s.journal.Gains (shuttingDown.run s).2.journal
      [match (shuttingDown.run s).1 with
        | .ok () => .shutDown
        | .error e => .shutDownFailed e.fault] := by
  have key := shuttingDown.await_rec (fun _ => none)
    (motive := fun s after => s.journal.Gains after.2.journal
      [match after.1 with
        | .ok () => .shutDown
        | .error e => .shutDownFailed e.fault]) ?_ ?_ ?_ s
  · exact key
  · intro s result s' h
    change s.pollShutDown = _ at h
    obtain ⟨_, hp, _⟩ | ⟨e, _, hp, hg⟩ | ⟨_, hp, hg⟩ := gains_pollShutDown s
    all_goals rw [hp] at h; cases h
    · exact hg
    · exact hg
  · intro s result s' _ hstop
    cases hstop
  · intro s s' after h _ ih
    change s.pollShutDown = _ at h
    obtain ⟨_, hp, hg⟩ | ⟨e, _, hp, _⟩ | ⟨_, hp, _⟩ := gains_pollShutDown s
    all_goals rw [hp] at h; cases h
    exact hg.trans ih

end Socket

/-! ## Senders -/

namespace Sender

theorem gainsOnly_transmit (rest : Bytes) (s : Sender) :
    s.socket.journal.GainsOnly isSent (s.transmit rest).2.socket.journal := by
  have h := Socket.gainsOnly_pollTransmit rest s.socket
  unfold transmit
  rcases hw : s.socket.pollTransmit rest with ⟨(e | ⟨⟩) | _, left, socket⟩
  all_goals rw [hw] at h; dsimp only
  · split
    · exact h.notice _
    · exact h
  · exact h
  · exact h

/-- An attempt at a write writes and flushes, and does nothing else. -/
theorem gainsOnly_attempt (busy : Bool) (w : Write) (s : Sender) :
    s.socket.journal.GainsOnly isSent (s.attempt busy w).2.socket.journal := by
  unfold attempt begin
  split
  · exact .refl _ _
  · split
    · exact .refl _ _
    · split
      · exact .refl _ _
      · split
        · exact .refl _ _
        · split
          · exact .refl _ _
          · exact gainsOnly_transmit _ s
  · split
    · exact .refl _ _
    · exact gainsOnly_transmit _ s

/-- So does a whole write. -/
theorem gainsOnly_send (supervised : Bool) (token : Nat) (frame : Except WireError Bytes)
    (s : Sender) :
    s.socket.journal.GainsOnly isSent (s.send supervised token frame).2.socket.journal :=
  sendingOne.await_keeps _ (fun a b => a.2.socket.journal.GainsOnly isSent b.2.socket.journal)
    (fun _ _ _ h h' => h.trans h') (fun state => gainsOnly_attempt false state.1 state.2)
    (newWrite token frame, s)

/-- Disposing shuts the socket down, once, unless the sender was disposed before. -/
theorem gains_dispose (s : Sender) : ∃ events,
    s.socket.journal.Gains s.dispose.socket.journal events ∧
    (s.disposed = true → events = []) ∧
    (s.disposed = false → events = [.shutDown] ∨ ∃ fault, events = [.shutDownFailed fault]) := by
  have h := Socket.gains_shuttingDown s.socket
  unfold dispose
  by_cases hd : s.disposed
  · rw [if_pos hd]
    exact ⟨[], .refl _, fun _ => rfl, fun hu => absurd (hu.symm.trans hd) Bool.false_ne_true⟩
  rw [if_neg hd]
  rcases hs : Socket.shuttingDown.run s.socket with ⟨e | ⟨⟩, socket⟩
  all_goals rw [hs] at h; dsimp only at h ⊢
  · exact ⟨_, h.notice _, fun hg => absurd hg hd, fun _ => .inr ⟨_, rfl⟩⟩
  · exact ⟨_, h, fun hg => absurd hg hd, fun _ => .inl rfl⟩

theorem gainsOnly_dispose (s : Sender) :
    s.socket.journal.GainsOnly isShutDown s.dispose.socket.journal := by
  obtain ⟨events, hg, hgone, husable⟩ := gains_dispose s
  refine hg.only ?_
  rcases hd : s.disposed with _ | _
  · rcases husable hd with rfl | ⟨_, rfl⟩ <;> rfl
  · rw [hgone hd]
    rfl

end Sender

end ProxyTunnel
