/-
Calm environments: nothing fails, and nobody cancels.

A script is calm if its steps succeed or are not ready, and fire no token that
matters. In a calm socket a read brings some bytes until nothing is left, a
write takes at least one byte, and a flush succeeds. So whoever waits long
enough gets everything done: a frame is delivered whole (`Sender.calm_send`)
and a tunnel is read to its end (`Tunnel.readToEnd_of_calm`).

Reading and writing do not disturb each other. What was heard (`Tunnel.Heard`)
is taken from the front of what is unread, and sending leaves that alone.
-/
import ProxyTunnel.Proofs.Transmission
import ProxyTunnel.Session

set_option autoImplicit false

namespace ProxyTunnel

open Event

/-! ## Scripts -/

/-- A step that does not fail, brings a good value if it brings one, and leaves
the token alone. -/
def Step.Calm {α : Type} (token : Nat) (good : α → Prop) : Step α → Prop
  | ready value => good value
  | fail _ => False
  | pending => True
  | fire other => other ≠ token

/-- A step of a read script that brings bytes, makes the reader wait or fires a
token. -/
def Step.Feeds : Step Bytes → Prop
  | ready bytes => bytes ≠ []
  | fail _ => False
  | pending | fire _ => True

/-- A script of such steps. -/
def Script.Feeds (script : Script Bytes) : Prop := ∀ step ∈ script, step.Feeds

/-- A script of calm steps. -/
def Script.Calm {α : Type} (token : Nat) (good : α → Prop) (script : Script α) : Prop :=
  ∀ step ∈ script, step.Calm token good

@[simp] theorem Journal.hasFired_append_event (journal : Journal) (token : Nat) (e : Event) :
    hasFired (journal ++ [.event e]) token = hasFired journal token := by
  simp [hasFired]

@[simp] theorem Journal.hasFired_append_notice (journal : Journal) (token : Nat) (n : Notice) :
    hasFired (journal ++ [.notice n]) token = hasFired journal token := by
  simp [hasFired]

namespace Script

variable {α : Type} {token : Nat} {good : α → Prop}

@[simp] theorem calm_nil : Calm token good [] := nofun

@[simp] theorem calm_cons {step : Step α} {script : Script α} :
    Calm token good (step :: script) ↔ step.Calm token good ∧ script.Calm token good :=
  List.forall_mem_cons

/-- An attempt is not ready, or brings a good value, or finds the script run out. -/
theorem calm_poll (rest : α) {script : Script α} (h : script.Calm token good) {journal : Journal}
    (hj : journal.hasFired token = false) :
    (poll rest script journal).2.1.Calm token good ∧
      (poll rest script journal).2.2.hasFired token = false ∧
      ((poll rest script journal).1 = .pending ∨
        ∃ value, (poll rest script journal).1 = .ready (.ok value) ∧
          (good value ∨ value = rest ∧ (poll rest script journal).2.1 = [])) := by
  induction script generalizing journal with
  | nil => exact ⟨h, hj, .inr ⟨rest, rfl, .inr ⟨rfl, rfl⟩⟩⟩
  | cons step script ih =>
    obtain ⟨hstep, hscript⟩ := calm_cons.1 h
    rcases step with value | e | _ | other
    · exact ⟨hscript, hj, .inr ⟨value, rfl, .inl hstep⟩⟩
    · exact hstep.elim
    · refine ⟨hscript, ?_, .inl rfl⟩
      simpa [poll, Journal.hasFired] using hj
    · -- another token may fire, and the attempt goes on
      refine ih hscript ?_
      have hne : token ≠ other := by
        intro he
        exact hstep he.symm
      simpa [Journal.hasFired, hne] using hj

/-- In a script that feeds, an attempt is not ready, or brings some bytes, or
finds the script run out. -/
theorem feeds_poll {script : Script Bytes} (h : script.Feeds) (journal : Journal) :
    (poll [] script journal).2.1.Feeds ∧
      ((poll [] script journal).1 = .pending ∨
        ∃ bytes, (poll [] script journal).1 = .ready (.ok bytes) ∧
          (bytes = [] → (poll [] script journal).2.1 = [])) := by
  induction script generalizing journal with
  | nil => exact ⟨h, .inr ⟨[], rfl, fun _ => rfl⟩⟩
  | cons step script ih =>
    have hstep := h step List.mem_cons_self
    have hscript : Feeds script := fun s hs => h s (List.mem_cons_of_mem step hs)
    cases step with
    | ready bytes => exact ⟨hscript, .inr ⟨bytes, rfl, fun hnil => absurd hnil hstep⟩⟩
    | fail e => exact hstep.elim
    | pending => exact ⟨hscript, .inl rfl⟩
    | fire token => exact ih hscript (journal ++ [.fired token])

end Script

/-! ## Sockets -/

namespace Socket

/-- Every read brings bytes until nothing is left. -/
def Feeds (s : Socket) : Prop := s.reads.Feeds

/-- Every read brings bytes, every write takes some, no flush fails, and the
token has not fired and will not. -/
structure Calm (token : Nat) (s : Socket) : Prop where
  unfired : s.journal.hasFired token = false
  reads : s.reads.Calm token (· ≠ [])
  writes : s.writes.Calm token (· ≠ some 0)
  flushes : s.flushes.Calm token fun _ => True

variable {token : Nat} {s : Socket}

theorem Calm.record (h : s.Calm token) (n : Notice) : (s.record (.notice n)).Calm token where
  unfired := by
    rw [← h.unfired]
    exact Journal.hasFired_append_notice _ _ n
  reads := h.reads
  writes := h.writes
  flushes := h.flushes

theorem calm_leftover {bytes : Bytes} {script : Script Bytes}
    (h : script.Calm token (· ≠ [])) : (leftover bytes script).Calm token (· ≠ []) := by
  unfold leftover
  by_cases hb : bytes.isEmpty
  · rw [if_pos hb]
    exact h
  · rw [if_neg hb]
    rw [List.isEmpty_iff] at hb
    exact Script.calm_cons.2 ⟨hb, h⟩

/-- A read is not ready, or brings some bytes, or finds that none are left. -/
theorem feeds_pollRead (h : s.Feeds) {room : Nat} (hr : 0 < room) :
    (s.pollRead room).2.Feeds ∧
      ((s.pollRead room).1 = .pending ∨ ∃ bytes, (s.pollRead room).1 = .ready (.ok bytes) ∧
        (bytes = [] → (s.pollRead room).2.unread = [])) := by
  obtain ⟨hscript, hanswer⟩ := Script.feeds_poll h s.journal
  unfold pollRead
  rcases hp : Script.poll [] s.reads s.journal with ⟨(e | bytes) | _, reads, journal⟩
  all_goals rw [hp] at hscript hanswer; dsimp only at hscript hanswer ⊢
  · rcases hanswer with hanswer | ⟨_, hanswer, _⟩ <;> cases hanswer
  · refine ⟨?_, .inr ⟨_, rfl, ?_⟩⟩
    · -- what a read leaves of a piece is a piece again
      unfold Feeds leftover
      by_cases hdone : (bytes.drop room).isEmpty
      · simpa [hdone] using hscript
      · simp only [hdone, Bool.false_eq_true, if_false]
        rw [List.isEmpty_iff] at hdone
        exact List.forall_mem_cons.2 ⟨hdone, hscript⟩
    · -- a read brings nothing only if the script has run out
      intro hnil
      have hnone : bytes = [] := by
        rcases List.take_eq_nil_iff.1 hnil with hzero | hnone
        · omega
        · exact hnone
      obtain hanswer | ⟨_, hanswer, hend⟩ := hanswer
      · cases hanswer
      cases hanswer
      simp [hnone, hend hnone, unread, leftover]
  · exact ⟨hscript, .inl rfl⟩

/-- A calm socket feeds its reader. -/
theorem Calm.feeds (h : s.Calm token) : s.Feeds := by
  intro step hstep
  have hcalm := h.reads step hstep
  cases step with
  | fail e => exact hcalm.elim
  | ready bytes => exact hcalm
  | pending | fire => trivial

/-- A read of a calm socket leaves it calm. -/
theorem calm_pollRead (h : s.Calm token) (room : Nat) : (s.pollRead room).2.Calm token := by
  obtain ⟨hscript, hfired, hanswer⟩ := Script.calm_poll [] h.reads h.unfired
  unfold pollRead
  rcases hp : Script.poll [] s.reads s.journal with ⟨(e | bytes) | _, reads, journal⟩
  all_goals rw [hp] at hscript hfired hanswer; dsimp only at hscript hfired hanswer ⊢
  · rcases hanswer with hanswer | ⟨_, hanswer, _⟩ <;> cases hanswer
  · refine ⟨?_, calm_leftover hscript, h.writes, h.flushes⟩
    rw [Journal.hasFired_append_event]
    exact hfired
  · exact ⟨hfired, hscript, h.writes, h.flushes⟩

/-- A write is not ready or takes some bytes. -/
theorem calm_pollWrite (h : s.Calm token) {bytes : Bytes} (hb : bytes ≠ []) :
    (s.pollWrite bytes).2.Calm token ∧ (s.pollWrite bytes).2.reads = s.reads ∧
      ((s.pollWrite bytes).1 = .pending ∨
        ∃ count, (s.pollWrite bytes).1 = .ready (.ok count) ∧ count ≠ 0) := by
  obtain ⟨hscript, hfired, hanswer⟩ := Script.calm_poll none h.writes h.unfired
  unfold pollWrite
  rcases hp : Script.poll none s.writes s.journal with ⟨(e | limit) | _, writes, journal⟩
  all_goals rw [hp] at hscript hfired hanswer; dsimp only at hscript hfired hanswer ⊢
  · rcases hanswer with hanswer | ⟨_, hanswer, _⟩ <;> cases hanswer
  · refine ⟨⟨?_, h.reads, hscript, h.flushes⟩, rfl, .inr ⟨_, rfl, ?_⟩⟩
    · rw [Journal.hasFired_append_event]
      exact hfired
    · have hlimit : limit ≠ some 0 := by
        rcases hanswer with hanswer | ⟨value, hanswer, hvalue⟩
        · cases hanswer
        cases hanswer
        rcases hvalue with hgood | ⟨hrest, _⟩
        · exact hgood
        · rw [hrest]
          rintro ⟨⟩
      intro hzero
      rcases List.take_eq_nil_iff.1 (List.length_eq_zero_iff.1 hzero) with hcount | hnone
      · rcases limit with _ | n
        · exact hb (List.length_eq_zero_iff.1 hcount)
        · exact hlimit (congrArg some hcount)
      · exact hb hnone
  · exact ⟨⟨hfired, h.reads, hscript, h.flushes⟩, rfl, .inl rfl⟩

theorem calm_pollFlush (h : s.Calm token) :
    s.pollFlush.2.Calm token ∧ (s.pollFlush.1 = .pending ∨ s.pollFlush.1 = .ready (.ok ())) := by
  obtain ⟨hscript, hfired, hanswer⟩ := Script.calm_poll () h.flushes h.unfired
  unfold pollFlush
  rcases hp : Script.poll () s.flushes s.journal with ⟨(e | _) | _, flushes, journal⟩
  all_goals rw [hp] at hscript hfired hanswer; dsimp only at hscript hfired hanswer ⊢
  · rcases hanswer with hanswer | ⟨_, hanswer, _⟩ <;> cases hanswer
  · refine ⟨⟨?_, h.reads, h.writes, hscript⟩, .inr rfl⟩
    rw [Journal.hasFired_append_event]
    exact hfired
  · exact ⟨⟨hfired, h.reads, h.writes, hscript⟩, .inl rfl⟩

theorem calm_pollWriteAll (bytes : Bytes) (h : s.Calm token) :
    (s.pollWriteAll bytes).2.2.Calm token ∧
      ((s.pollWriteAll bytes).1 = .pending ∨ (s.pollWriteAll bytes).1 = .ready (.ok ())) := by
  fun_induction pollWriteAll bytes s with
  | case1 => exact ⟨h, .inr rfl⟩
  | case2 bytes s hb s' hw =>
    have key := calm_pollWrite h hb
    rw [hw] at key
    exact ⟨key.1, .inl rfl⟩
  -- an interruption, a fault and a write of nothing do not happen here
  | case3 bytes s hb e s' hw | case4 bytes s hb e s' hw | case5 bytes s hb s' hw =>
    obtain ⟨_, _, hanswer | ⟨count, hanswer, hcount⟩⟩ := calm_pollWrite h hb
    all_goals rw [hw] at hanswer; cases hanswer
    try exact absurd rfl hcount
  | case6 bytes s hb count s' hw _ ih =>
    have key := calm_pollWrite h hb
    rw [hw] at key
    exact ih key.1

theorem calm_pollTransmit (bytes : Bytes) (h : s.Calm token) :
    (s.pollTransmit bytes).2.2.Calm token ∧
      ((s.pollTransmit bytes).1 = .pending ∨ (s.pollTransmit bytes).1 = .ready (.ok ())) := by
  obtain ⟨hcalm, hanswer⟩ := calm_pollWriteAll bytes h
  unfold pollTransmit
  rcases hw : s.pollWriteAll bytes with ⟨(e | _) | _, rest, s'⟩
  all_goals rw [hw] at hcalm hanswer; dsimp only at hcalm hanswer ⊢
  · rcases hanswer with hanswer | hanswer <;> cases hanswer
  · exact calm_pollFlush hcalm
  · exact ⟨hcalm, .inl rfl⟩

/-! ## Sending leaves the receiving side alone -/

theorem reads_pollWrite (bytes : Bytes) (s : Socket) : (s.pollWrite bytes).2.reads = s.reads := by
  unfold pollWrite
  split <;> rfl

theorem reads_pollWriteAll (bytes : Bytes) (s : Socket) :
    (s.pollWriteAll bytes).2.2.reads = s.reads := by
  fun_induction pollWriteAll bytes s with
  | case1 => rfl
  | case2 bytes s _ s' h | case4 bytes s _ _ s' h | case5 bytes s _ s' h =>
    have key := reads_pollWrite bytes s
    rwa [h] at key
  | case3 bytes s _ e s' h _ ih | case6 bytes s _ count s' h _ ih =>
    have key := reads_pollWrite bytes s
    rw [h] at key
    exact ih.trans key

theorem reads_pollTransmit (bytes : Bytes) (s : Socket) :
    (s.pollTransmit bytes).2.2.reads = s.reads := by
  have h := reads_pollWriteAll bytes s
  unfold pollTransmit
  rcases hw : s.pollWriteAll bytes with ⟨(e | _) | _, rest, s'⟩
  all_goals rw [hw] at h; dsimp only at h ⊢
  · exact h
  · refine Eq.trans ?_ h
    unfold pollFlush
    split <;> rfl
  · exact h

end Socket

/-! ## Writes -/

namespace Sender

theorem reads_transmit (rest : Bytes) (s : Sender) :
    (s.transmit rest).2.socket.reads = s.socket.reads := by
  have h := Socket.reads_pollTransmit rest s.socket
  unfold transmit
  split <;> rename_i heq <;> rw [heq] at h
  · exact h
  · exact h
  · split <;> exact h

theorem reads_attempt (busy : Bool) (w : Write) (s : Sender) :
    (s.attempt busy w).2.socket.reads = s.socket.reads := by
  unfold attempt
  split
  · rfl
  · split
    · rfl
    · split
      · rfl
      · unfold begin
        split
        · rfl
        · split
          · rfl
          · exact reads_transmit _ s
  · split
    · rfl
    · exact reads_transmit _ s

/-- A write reads nothing. -/
theorem reads_send (supervised : Bool) (token : Nat) (frame : Except WireError Bytes) (s : Sender) :
    (s.send supervised token frame).2.socket.reads = s.socket.reads :=
  sendingOne.await_keeps _ (fun a b => b.2.socket.reads = a.2.socket.reads)
    (fun _ _ _ h h' => h'.trans h) (fun state => reads_attempt false state.1 state.2)
    (newWrite token frame, s)

/-- A write that has bytes to send as soon as it has its turn. -/
def IsReady (w : Write) (rest : Bytes) : Prop :=
  w.stage = .waiting ∧ w.frame = .ok rest ∨ w.stage = .sending rest

theorem attempt_of_isReady {w : Write} {rest : Bytes} (hw : IsReady w rest) {s : Sender}
    (usable : s.disposed = false) (unfired : s.hasFired w.token = false) :
    s.attempt false w = s.transmit rest := by
  unfold attempt
  rcases hw with ⟨hstage, hframe⟩ | hstage
  · rw [hstage]
    dsimp only
    rw [unfired, hframe]
    unfold begin
    rw [usable]
    rfl
  · rw [hstage]
    dsimp only
    rw [unfired]
    rfl

theorem calm_transmit (rest : Bytes) {token : Nat} {s : Sender} (h : s.socket.Calm token) :
    (s.transmit rest).2.socket.Calm token ∧ (s.transmit rest).2.disposed = s.disposed ∧
      ((∃ left, (s.transmit rest).1 = .sending left) ∨
        (s.transmit rest).1 = .finished (.ok ())) := by
  obtain ⟨hcalm, hanswer⟩ := Socket.calm_pollTransmit rest h
  unfold transmit
  rcases hp : s.socket.pollTransmit rest with ⟨(e | ⟨⟩) | _, left, socket⟩
  all_goals rw [hp] at hcalm hanswer; dsimp only at hcalm hanswer ⊢
  · rcases hanswer with hanswer | hanswer <;> cases hanswer
  · exact ⟨hcalm, rfl, .inr rfl⟩
  · exact ⟨hcalm, rfl, .inl ⟨left, rfl⟩⟩

/-- In calm weather a write that can be encoded succeeds. -/
theorem calm_send (supervised : Bool) {token : Nat} {s : Sender} (h : s.socket.Calm token)
    (usable : s.disposed = false) (bytes : Bytes) :
    (s.send supervised token (.ok bytes)).1 = .ok () ∧
      (s.send supervised token (.ok bytes)).2.socket.Calm token ∧
      (s.send supervised token (.ok bytes)).2.disposed = false := by
  have key := sendingOne.await_rec
    (fun state => if supervised && state.2.hasFired token then some (.error .cancelled) else none)
    (motive := fun start after => ∀ rest, IsReady start.1 rest → start.1.token = token →
      start.2.socket.Calm token → start.2.disposed = false →
      after.1 = .ok () ∧ after.2.2.socket.Calm token ∧ after.2.2.disposed = false) ?_ ?_ ?_
    (newWrite token (.ok bytes), s)
  · exact key bytes (.inl ⟨rfl, rfl⟩) rfl h usable
  · -- an attempt that is ready has delivered the frame
    rintro ⟨w, s⟩ result after ha rest hw htoken hs hd
    obtain ⟨hcalm, hkept, hstage⟩ := calm_transmit rest hs
    dsimp only at hw htoken
    simp only [sendingOne, attemptOne, attempt_of_isReady hw hd (htoken ▸ hs.unfired)] at ha
    rcases hstage with ⟨left, hstage⟩ | hstage
    all_goals rw [hstage] at ha; cases ha
    exact ⟨rfl, hcalm, hkept.trans hd⟩
  · rintro ⟨w, s⟩ result after ha hstop rest hw htoken hs hd
    obtain ⟨hcalm, _, _⟩ := calm_transmit rest hs
    dsimp only at hw htoken
    simp only [sendingOne, attemptOne, attempt_of_isReady hw hd (htoken ▸ hs.unfired),
      Prod.mk.injEq] at ha
    rw [← ha.2] at hstop
    have hfired : (s.transmit rest).2.hasFired token = false := hcalm.unfired
    dsimp only at hstop
    rw [hfired, Bool.and_false] at hstop
    cases hstop
  · -- an attempt that is not leaves a write with less to send
    rintro ⟨w, s⟩ after r ha _ ih rest hw htoken hs hd
    obtain ⟨hcalm, hkept, hstage⟩ := calm_transmit rest hs
    dsimp only at hw htoken
    simp only [sendingOne, attemptOne, attempt_of_isReady hw hd (htoken ▸ hs.unfired)] at ha
    rcases hstage with ⟨left, hstage⟩ | hstage
    all_goals rw [hstage] at ha; cases ha
    exact ih left (.inr rfl) htoken hcalm (hkept.trans hd)

end Sender

/-! ## What was heard -/

namespace Tunnel

/-- These bytes were read, and nothing else happened. -/
structure Heard (t : Tunnel) (bytes : Bytes) (t' : Tunnel) : Prop where
  unread : t.unread = bytes ++ t'.unread
  events : ∃ events, t.socket.journal.Gains t'.socket.journal events ∧ events.all isRead
  calm : ∀ token, t.socket.Calm token → t'.socket.Calm token

theorem Heard.refl (t : Tunnel) : t.Heard [] t where
  unread := rfl
  events := ⟨[], Journal.Gains.refl _, rfl⟩
  calm _ h := h

theorem Heard.trans {t t' t'' : Tunnel} {xs ys : Bytes} (h : t.Heard xs t')
    (h' : t'.Heard ys t'') : t.Heard (xs ++ ys) t'' where
  unread := by rw [h.unread, h'.unread, List.append_assoc]
  events := by
    obtain ⟨es, hg, hr⟩ := h.events
    obtain ⟨es', hg', hr'⟩ := h'.events
    refine ⟨es ++ es', hg.trans hg', ?_⟩
    rw [List.all_append, hr, hr']
    rfl
  calm token hc := h'.calm token (h.calm token hc)

theorem heard_pollRead (room : Nat) (t : Tunnel) :
    t.Heard (Socket.received (t.pollRead room).1) (t.pollRead room).2 where
  unread := unread_pollRead room t
  events := by
    have h := Script.gains_poll [] t.socket.reads t.socket.journal
    unfold pollRead Socket.pollRead
    split
    · dsimp only
      split <;> rename_i heq <;> rw [heq] at h
      · exact ⟨[], h, rfl⟩
      · exact ⟨_, h.event _, rfl⟩
      · exact ⟨_, h.event _, rfl⟩
    · exact ⟨[], Journal.Gains.refl _, rfl⟩
  calm token hc := by
    unfold pollRead
    split
    · exact Socket.calm_pollRead hc room
    · exact hc

/-- A read is not ready, or brings some bytes, or finds that none are left. -/
theorem feeds_pollRead {room : Nat} (hr : 0 < room) {t : Tunnel} (h : t.socket.Feeds) :
    (t.pollRead room).2.socket.Feeds ∧
      ((t.pollRead room).1 = .pending ∨ ∃ bytes, (t.pollRead room).1 = .ready (.ok bytes) ∧
        (bytes = [] → (t.pollRead room).2.unread = [])) := by
  obtain ⟨hfeeds, hanswer⟩ := Socket.feeds_pollRead h hr
  unfold pollRead
  by_cases hnone : t.replay.isEmpty
  · rw [if_pos hnone]
    rw [List.isEmpty_iff] at hnone
    refine ⟨hfeeds, hanswer.imp_right ?_⟩
    rintro ⟨bytes, hb, hend⟩
    refine ⟨bytes, hb, ?_⟩
    intro hnil
    rw [unread, hnone, List.nil_append]
    exact hend hnil
  · rw [if_neg hnone]
    refine ⟨h, .inr ⟨_, rfl, ?_⟩⟩
    intro hnil
    rw [List.isEmpty_iff] at hnone
    rcases List.take_eq_nil_iff.1 hnil with hzero | hreplay
    · omega
    · exact absurd hreplay hnone

/-- A wait for a read brings its result, or is interrupted; only a read that
succeeds has used bytes up. -/
theorem heard_await {β : Type} (room : Nat) (f : Except SocketError Bytes → β)
    (interrupt : Tunnel → Option β) (t : Tunnel) :
    ∃ bytes, t.Heard bytes (((reading room).map f).await interrupt t).2 ∧
      ((((reading room).map f).await interrupt t).1 = f (.ok bytes) ∨ bytes = [] ∧
        ((∃ e, (((reading room).map f).await interrupt t).1 = f (.error e)) ∨
          interrupt (((reading room).map f).await interrupt t).2 =
            some (((reading room).map f).await interrupt t).1)) := by
  refine Operation.await_rec _ interrupt
    (motive := fun t after => ∃ bytes, t.Heard bytes after.2 ∧ (after.1 = f (.ok bytes) ∨
      bytes = [] ∧ ((∃ e, after.1 = f (.error e)) ∨ interrupt after.2 = some after.1))) ?_ ?_ ?_ t
  · intro t value t' ha
    have hh := heard_pollRead room t
    simp only [Operation.map, reading, Prod.mk.injEq] at ha
    obtain ⟨hv, rfl⟩ := ha
    rcases hp : (t.pollRead room).1 with (e | bytes) | _
    all_goals rw [hp] at hv hh; cases hv
    · exact ⟨[], hh, .inr ⟨rfl, .inl ⟨e, rfl⟩⟩⟩
    · exact ⟨bytes, hh, .inl rfl⟩
  · intro t value t' ha hi
    have hh := heard_pollRead room t
    simp only [Operation.map, reading, Prod.mk.injEq, Poll.map_eq_pending] at ha
    obtain ⟨hv, rfl⟩ := ha
    rw [hv] at hh
    exact ⟨[], hh, .inr ⟨rfl, .inr hi⟩⟩
  · rintro t t' r ha _ ⟨bytes, hh', hr'⟩
    have hh := heard_pollRead room t
    simp only [Operation.map, reading, Prod.mk.injEq, Poll.map_eq_pending] at ha
    obtain ⟨hv, rfl⟩ := ha
    rw [hv] at hh
    exact ⟨bytes, hh.trans hh', hr'⟩

/-- While a state lasts in which a tunnel feeds its reader and nobody interrupts,
a read succeeds. It brings nothing only when nothing is left. -/
theorem await_of_feeds {β : Type} {room : Nat} (hr : 0 < room) (f : Except SocketError Bytes → β)
    {interrupt : Tunnel → Option β} {P : Tunnel → Prop}
    (hfeeds : ∀ t, P t → t.socket.Feeds) (hlasts : ∀ t, P t → P (t.pollRead room).2)
    (hi : ∀ t, P t → interrupt t = none) {t : Tunnel} (h : P t) :
    ∃ bytes, t.Heard bytes (((reading room).map f).await interrupt t).2 ∧
      (((reading room).map f).await interrupt t).1 = f (.ok bytes) ∧
      (bytes = [] → (((reading room).map f).await interrupt t).2.unread = []) ∧
      P (((reading room).map f).await interrupt t).2 := by
  have key := Operation.await_rec ((reading room).map f) interrupt
    (motive := fun t after => P t → ∃ bytes, t.Heard bytes after.2 ∧
      after.1 = f (.ok bytes) ∧ (bytes = [] → after.2.unread = []) ∧ P after.2) ?_ ?_ ?_ t
  · exact key h
  · intro t value t' ha hp
    have hh := heard_pollRead room t
    simp only [Operation.map, reading, Prod.mk.injEq] at ha
    obtain ⟨hv, rfl⟩ := ha
    rcases (feeds_pollRead hr (hfeeds t hp)).2 with hpoll | ⟨bytes, hpoll, hend⟩
    all_goals rw [hpoll] at hv hh; cases hv
    exact ⟨bytes, hh, rfl, hend, hlasts t hp⟩
  · intro t value t' ha hint hp
    simp only [Operation.map, reading, Prod.mk.injEq] at ha
    obtain ⟨_, rfl⟩ := ha
    rw [hi _ (hlasts t hp)] at hint
    cases hint
  · intro t t' r ha _ ih hp
    have hh := heard_pollRead room t
    simp only [Operation.map, reading, Prod.mk.injEq, Poll.map_eq_pending] at ha
    obtain ⟨hv, rfl⟩ := ha
    obtain ⟨bytes, hh', hr', hend, hp'⟩ := ih (hlasts t hp)
    rw [hv] at hh
    exact ⟨bytes, hh.trans hh', hr', hend, hp'⟩

/-- In calm weather, and unless it is interrupted, a read succeeds; it brings
nothing only when nothing is left. -/
theorem calm_await {β : Type} {room token : Nat} (hr : 0 < room) (f : Except SocketError Bytes → β)
    {interrupt : Tunnel → Option β}
    (hi : ∀ t : Tunnel, t.socket.Calm token → interrupt t = none) {t : Tunnel}
    (h : t.socket.Calm token) :
    ∃ bytes, t.Heard bytes (((reading room).map f).await interrupt t).2 ∧
      (((reading room).map f).await interrupt t).1 = f (.ok bytes) ∧
      (bytes = [] → (((reading room).map f).await interrupt t).2.unread = []) := by
  obtain ⟨bytes, hh, hok, hend, _⟩ := await_of_feeds hr f
    (P := fun t => t.socket.Calm token) (fun _ hc => hc.feeds)
    (fun t hc => (heard_pollRead room t).calm token hc) hi h
  exact ⟨bytes, hh, hok, hend⟩

/-- **A calm tunnel is read to its end.** -/
theorem readToEnd_of_calm {room token : Nat} (hr : 0 < room) {t : Tunnel}
    (h : t.socket.Calm token) : (t.readToEnd room).1 = .ok t.unread := by
  -- read by read: no read fails, and the last one finds nothing left
  fun_induction readToEnd room t with
  | case1 t e t' ht =>
    obtain ⟨bytes, _, hr', _⟩ := calm_await hr id (fun _ _ => rfl) h
    change (t.read room).1 = .ok bytes at hr'
    rw [ht] at hr'
    cases hr'
  | case2 t t' ht =>
    obtain ⟨bytes, hh, hr', hend⟩ := calm_await hr id (fun _ _ => rfl) h
    change t.Heard bytes (t.read room).2 at hh
    change (t.read room).1 = .ok bytes at hr'
    change bytes = [] → (t.read room).2.unread = [] at hend
    rw [ht] at hh hr' hend
    cases hr'
    rw [hh.unread, hend rfl]
    rfl
  | case3 t bytes t' ht hne more t'' hmore ih =>
    obtain ⟨bytes', hh, hr', _⟩ := calm_await hr id (fun _ _ => rfl) h
    change t.Heard bytes' (t.read room).2 at hh
    change (t.read room).1 = .ok bytes' at hr'
    rw [ht] at hh hr'
    cases hr'
    have hrest := ih (hh.calm token h)
    rw [hmore] at hrest
    dsimp only at hrest
    rw [hrest, hh.unread]
    rfl

end Tunnel

end ProxyTunnel
