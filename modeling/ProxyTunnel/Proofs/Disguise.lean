/-
What nobody on a socket notices.

A `Disguise` changes sockets, and the bytes that are sent to them, in such a way
that every read, write and flush answers as before and leaves the socket changed
likewise. So nothing that is made of reads, writes and flushes notices it either: a
disguised sender sends disguised frames as before, a disguised session receives what
it would have received, and a handshake with its frames disguised runs as it would
have run (`Disguise.run_dialogue`).

Two runs are compared through a disguise that makes them one.
-/
import ProxyTunnel.Dialogue

set_option autoImplicit false

namespace ProxyTunnel

/-- A wait on a state that was changed where no attempt looks. -/
theorem Operation.await_change {σ α : Type} (op : Operation σ α) (interrupt : σ → Option α)
    (change : σ → σ)
    (hattempt : ∀ s, op.attempt (change s) = ((op.attempt s).1, change (op.attempt s).2))
    (hinterrupt : ∀ s, interrupt (change s) = interrupt s) (s : σ) :
    op.await interrupt (change s) =
      ((op.await interrupt s).1, change (op.await interrupt s).2) := by
  refine op.await_rec interrupt
    (motive := fun s r => op.await interrupt (change s) = (r.1, change r.2)) ?_ ?_ ?_ s
  · intro s value s' h
    exact await_of_ready ((hattempt s).trans (by rw [h])) interrupt
  · intro s value s' h hstop
    rw [await_of_pending ((hattempt s).trans (by rw [h])), hinterrupt, hstop]
  · intro s s' r h hnone ih
    rw [await_of_pending ((hattempt s).trans (by rw [h])), hinterrupt, hnone]
    exact ih

/-- A change of sockets, and of the bytes sent to them, that no read, write or flush
notices. -/
structure Disguise where
  socket : Socket → Socket
  bytes : Bytes → Bytes
  length_bytes (b : Bytes) : (bytes b).length = b.length
  bytes_drop (n : Nat) (b : Bytes) : bytes (b.drop n) = (bytes b).drop n
  hasFired_socket (token : Nat) (s : Socket) :
    (socket s).journal.hasFired token = s.journal.hasFired token
  unread_socket (s : Socket) : (socket s).unread = s.unread
  record_socket (n : Notice) (s : Socket) :
    (socket s).record (.notice n) = socket (s.record (.notice n))
  pollRead_socket (room : Nat) (s : Socket) :
    (socket s).pollRead room = ((s.pollRead room).1, socket (s.pollRead room).2)
  pollWrite_socket (b : Bytes) (s : Socket) :
    (socket s).pollWrite (bytes b) = ((s.pollWrite b).1, socket (s.pollWrite b).2)
  pollFlush_socket (s : Socket) : (socket s).pollFlush = (s.pollFlush.1, socket s.pollFlush.2)

namespace Disguise

variable (d : Disguise)

/-! ## Sockets -/

theorem bytes_eq_nil_iff (b : Bytes) : d.bytes b = [] ↔ b = [] := by
  rw [← List.length_eq_zero_iff, d.length_bytes, List.length_eq_zero_iff]

theorem pollWriteAll_socket (bytes : Bytes) (s : Socket) :
    (d.socket s).pollWriteAll (d.bytes bytes) = ((s.pollWriteAll bytes).1,
      d.bytes (s.pollWriteAll bytes).2.1, d.socket (s.pollWriteAll bytes).2.2) := by
  have hnil : d.bytes [] = [] := (d.bytes_eq_nil_iff []).2 rfl
  fun_induction Socket.pollWriteAll bytes s with
  | case1 => rw [Socket.pollWriteAll, dif_pos hnil, hnil]
  | case2 bytes s hne s' h =>
    rw [Socket.pollWriteAll, dif_neg (hne ∘ (d.bytes_eq_nil_iff bytes).1)]
    split <;> rename_i heq <;> rw [d.pollWrite_socket, h] at heq <;> cases heq
    rfl
  | case3 bytes s hne e s' h hi ih =>
    rw [Socket.pollWriteAll, dif_neg (hne ∘ (d.bytes_eq_nil_iff bytes).1)]
    split <;> rename_i heq <;> rw [d.pollWrite_socket, h] at heq <;> cases heq
    rw [if_pos hi]
    exact ih
  | case4 bytes s hne e s' h hi =>
    rw [Socket.pollWriteAll, dif_neg (hne ∘ (d.bytes_eq_nil_iff bytes).1)]
    split <;> rename_i heq <;> rw [d.pollWrite_socket, h] at heq <;> cases heq
    rw [if_neg hi]
  | case5 bytes s hne s' h =>
    rw [Socket.pollWriteAll, dif_neg (hne ∘ (d.bytes_eq_nil_iff bytes).1)]
    split <;> rename_i heq <;> rw [d.pollWrite_socket, h] at heq <;> cases heq
    rfl
  | case6 bytes s hne count s' h hn ih =>
    rw [Socket.pollWriteAll, dif_neg (hne ∘ (d.bytes_eq_nil_iff bytes).1)]
    split <;> rename_i heq <;> rw [d.pollWrite_socket, h] at heq <;> cases heq
    rw [dif_neg hn, ← d.bytes_drop]
    exact ih

theorem pollTransmit_socket (bytes : Bytes) (s : Socket) :
    (d.socket s).pollTransmit (d.bytes bytes) = ((s.pollTransmit bytes).1,
      d.bytes (s.pollTransmit bytes).2.1, d.socket (s.pollTransmit bytes).2.2) := by
  unfold Socket.pollTransmit
  rw [pollWriteAll_socket]
  rcases s.pollWriteAll bytes with ⟨(e | ⟨⟩) | _, rest, s'⟩
  · rfl
  · dsimp only
    rw [d.pollFlush_socket]
  · rfl

/-! ## Senders -/

/-- The disguised sender. -/
def sender (s : Sender) : Sender := { s with socket := d.socket s.socket }

/-- A write with what is left of it disguised. -/
def stage : Stage → Stage
  | .sending rest => .sending (d.bytes rest)
  | other => other

/-- The frame of a write disguised. -/
def frame (f : Except WireError Bytes) : Except WireError Bytes := f.map d.bytes

/-- The disguised write. -/
def write (w : Write) : Write := ⟨w.token, d.frame w.frame, d.stage w.stage⟩

theorem transmit_sender (rest : Bytes) (s : Sender) :
    (d.sender s).transmit (d.bytes rest) =
      (d.stage (s.transmit rest).1, d.sender (s.transmit rest).2) := by
  have hsocket : (d.sender s).socket = d.socket s.socket := rfl
  unfold Sender.transmit
  rw [hsocket, pollTransmit_socket]
  rcases s.socket.pollTransmit rest with ⟨(e | ⟨⟩) | _, left, socket⟩
  · dsimp only
    rw [d.record_socket]
    split <;> rfl
  · rfl
  · rfl

theorem attempt_sender (busy : Bool) (w : Write) (s : Sender) :
    (d.sender s).attempt busy (d.write w) =
      (d.stage (s.attempt busy w).1, d.sender (s.attempt busy w).2) := by
  have hfired : (d.sender s).hasFired w.token = s.hasFired w.token :=
    d.hasFired_socket w.token s.socket
  have hgone : (d.sender s).disposed = s.disposed := rfl
  rcases w with ⟨token, frame, _ | rest | result⟩
  · change (if (d.sender s).hasFired token then _ else _) = _
    rw [hfired]
    unfold Sender.attempt Sender.begin
    dsimp only [write, stage, Disguise.frame]
    split
    · rfl
    · split
      · rfl
      · rw [hgone]
        split
        · rfl
        · rcases frame with e | bytes
          · rfl
          · exact d.transmit_sender bytes s
  · change (if (d.sender s).hasFired token then _ else _) = _
    rw [hfired]
    unfold Sender.attempt
    dsimp only
    split
    · rfl
    · exact d.transmit_sender rest s
  · rfl

theorem send_sender (supervised : Bool) (token : Nat) (frame : Except WireError Bytes)
    (s : Sender) : (d.sender s).send supervised token (d.frame frame) =
      ((s.send supervised token frame).1, d.sender (s.send supervised token frame).2) := by
  have key := Sender.sendingOne.await_change
    (fun state => if supervised && state.2.hasFired token then some (.error .cancelled) else none)
    (fun state => (d.write state.1, d.sender state.2)) ?_ ?_ (Sender.newWrite token frame, s)
  · have hwrite : Sender.newWrite token (d.frame frame) =
        d.write (Sender.newWrite token frame) := rfl
    unfold Sender.send
    dsimp only at key ⊢
    rw [hwrite, key]
  · rintro ⟨w, s⟩
    simp only [Sender.sendingOne, Sender.attemptOne, attempt_sender]
    rcases (s.attempt false w).1 with _ | rest | result <;> rfl
  · rintro ⟨w, s⟩
    have hfired : (d.sender s).hasFired token = s.hasFired token := d.hasFired_socket token s.socket
    dsimp only
    rw [hfired]

/-! ## Sessions -/

/-- The disguised tunnel. -/
def tunnel (t : Tunnel) : Tunnel := { t with socket := d.socket t.socket }

/-- The disguised session. -/
def session (c : Session) : Session := { c with tunnel := d.tunnel c.tunnel }

theorem pollRead_tunnel (room : Nat) (t : Tunnel) :
    (d.tunnel t).pollRead room = ((t.pollRead room).1, d.tunnel (t.pollRead room).2) := by
  have hreplay : (d.tunnel t).replay = t.replay := rfl
  have hsocket : (d.tunnel t).socket = d.socket t.socket := rfl
  unfold Tunnel.pollRead
  rw [hreplay, hsocket, d.pollRead_socket]
  split <;> rfl

theorem note_session (n : Notice) (c : Session) :
    (d.session c).note n = d.session (c.note n) := by
  have hrecord : (d.socket c.tunnel.socket).record (.notice n) = _ :=
    d.record_socket n c.tunnel.socket
  unfold Session.note session tunnel
  dsimp only
  rw [hrecord]

theorem send_session (frame : Except WireError Bytes) (c : Session) :
    (d.session c).send (d.frame frame) = ((c.send frame).1, d.session (c.send frame).2) := by
  change (((d.sender c.sender).send c.supervised c.token (d.frame frame)).1,
    (d.session c).withSender
      ((d.sender c.sender).send c.supervised c.token (d.frame frame)).2) = _
  rw [send_sender]
  rfl

theorem fetch_session (c : Session) :
    (d.session c).fetch = (c.fetch.1, d.tunnel c.fetch.2) := by
  refine Operation.await_change _ c.giveUp d.tunnel ?_ ?_ c.tunnel
  · intro t
    simp only [Operation.map, Tunnel.reading, pollRead_tunnel]
  · intro t
    have hfired : (d.tunnel t).socket.journal.hasFired c.token = _ :=
      d.hasFired_socket c.token t.socket
    unfold Session.giveUp
    rw [hfired]

variable {α : Type}

theorem next_session (rule : Option (Framing α)) (c : Session) :
    (d.session c).next rule =
      ((c.next rule).1, (c.next rule).2.1, d.session (c.next rule).2.2) := by
  fun_induction Session.next rule c with
  | case1 c => rw [Session.next]
  | case2 c rule content successor rule' rest hcut =>
    have hcut' : rule.cut (d.session c).buffer = _ := hcut
    rw [Session.next, hcut']
    rfl
  | case3 c rule e rule' rest hcut =>
    have hcut' : rule.cut (d.session c).buffer = _ := hcut
    rw [Session.next, hcut']
    rfl
  | case4 c rule rule' rest hcut hend =>
    have hcut' : rule.cut (d.session c).buffer = _ := hcut
    rw [Session.next, hcut']
    exact if_pos hend
  | case5 c rule rule' rest hcut hend hfull =>
    have hcut' : rule.cut (d.session c).buffer = _ := hcut
    rw [Session.next, hcut']
    exact (if_neg hend).trans (if_pos hfull)
  | case6 c rule rule' rest hcut hend hroom e tunnel hfetch =>
    have hcut' : rule.cut (d.session c).buffer = _ := hcut
    rw [Session.next, hcut']
    refine (if_neg hend).trans ((if_neg hroom).trans ?_)
    split <;> rename_i heq <;> rw [fetch_session, hfetch] at heq <;> cases heq
    rfl
  | case7 c rule rule' rest hcut hend hroom tunnel hfetch =>
    have hcut' : rule.cut (d.session c).buffer = _ := hcut
    rw [Session.next, hcut']
    refine (if_neg hend).trans ((if_neg hroom).trans ?_)
    split <;> rename_i heq <;> rw [fetch_session, hfetch] at heq <;> cases heq
    rw [dif_pos rfl]
    rfl
  | case8 c rule rule' rest hcut hend hroom bytes tunnel hfetch hne ih =>
    have hcut' : rule.cut (d.session c).buffer = _ := hcut
    rw [Session.next, hcut']
    refine (if_neg hend).trans ((if_neg hroom).trans ?_)
    split <;> rename_i heq <;> rw [fetch_session, hfetch] at heq <;> cases heq
    rw [dif_neg hne]
    exact ih

theorem receive_session (rule : Option (Framing α)) (c : Session) :
    (d.session c).receive rule =
      ((c.receive rule).1, (c.receive rule).2.1, d.session (c.receive rule).2.2) := by
  unfold Session.receive
  rw [next_session]
  rcases c.next rule with ⟨_ | result, rule', c'⟩ <;> rfl

theorem pendingBytes_session (c : Session) : (d.session c).pendingBytes = c.pendingBytes := by
  have hunread : (d.session c).tunnel.unread = c.tunnel.unread :=
    congrArg (c.tunnel.replay ++ ·) (d.unread_socket c.tunnel.socket)
  unfold Session.pendingBytes
  rw [hunread]
  rfl

theorem skipTo_session (last : α → Bool) (rule : Option (Framing α)) (c : Session) :
    (d.session c).skipTo last rule = ((c.skipTo last rule).1, (c.skipTo last rule).2.1,
      d.session (c.skipTo last rule).2.2) := by
  fun_induction Session.skipTo last rule c with
  | case1 rule c e rule' c' h =>
    rw [Session.skipTo]
    split <;> rename_i heq <;> rw [receive_session, h] at heq <;> cases heq
    rfl
  | case2 rule c content rule' c' h hlast =>
    rw [Session.skipTo]
    split <;> rename_i heq <;> rw [receive_session, h] at heq <;> cases heq
    rw [if_pos hlast]
  | case3 rule c content rule' c' h hlast hlt ih =>
    have hlt' : (d.session c').pendingBytes < (d.session c).pendingBytes := by
      rwa [pendingBytes_session, pendingBytes_session]
    rw [Session.skipTo]
    split <;> rename_i heq <;> rw [receive_session, h] at heq <;> cases heq
    rw [if_neg hlast, dif_pos hlt']
    exact ih
  | case4 rule c content rule' c' h hlast hle =>
    have hle' : ¬ (d.session c').pendingBytes < (d.session c).pendingBytes := by
      rwa [pendingBytes_session, pendingBytes_session]
    rw [Session.skipTo]
    split <;> rename_i heq <;> rw [receive_session, h] at heq <;> cases heq
    rw [if_neg hlast, dif_neg hle']

/-! ## Dialogues -/

/-- The dialogue with its frames disguised. -/
def dialogue : Dialogue α → Dialogue α
  | .finish result => .finish result
  | .note n x => .note n (dialogue x)
  | .send f x => .send (d.frame f) (dialogue x)
  | .receive next => .receive fun content => dialogue (next content)
  | .skipTo last x => .skipTo last (dialogue x)

/-- **Nobody notices a disguise**: on a disguised session a dialogue with its frames
disguised ends as it would have ended, and leaves the same session disguised. -/
theorem run_dialogue (x : Dialogue α) (rule : Option (Framing α)) (c : Session) :
    (d.dialogue x).run rule (d.session c) = ((x.run rule c).1, d.session (x.run rule c).2) := by
  induction x generalizing rule c with
  | finish result => rfl
  | note n x ih =>
    unfold dialogue Dialogue.run
    rw [note_session]
    exact ih rule (c.note n)
  | send f x ih =>
    unfold dialogue Dialogue.run
    rw [send_session]
    rcases c.send f with ⟨e | ⟨⟩, c'⟩
    · rfl
    · exact ih rule c'
  | receive next ih =>
    unfold dialogue Dialogue.run
    rw [receive_session]
    rcases c.receive rule with ⟨e | content, rule', c'⟩
    · rfl
    · exact ih content rule' c'
  | skipTo last x ih =>
    unfold dialogue Dialogue.run
    rw [skipTo_session]
    rcases c.skipTo last rule with ⟨e | ⟨⟩, rule', c'⟩
    · rfl
    · exact ih rule' c'

/-- Two dialogues that a disguise makes one run alike. -/
theorem run_eq_of_dialogue_eq {x y : Dialogue α} (h : d.dialogue x = d.dialogue y)
    (rule : Option (Framing α)) (c : Session) :
    (x.run rule c).1 = (y.run rule c).1 ∧
      d.session (x.run rule c).2 = d.session (y.run rule c).2 := by
  have hx := d.run_dialogue x rule c
  rw [h, d.run_dialogue y rule c] at hx
  exact ⟨(congrArg Prod.fst hx).symm, (congrArg Prod.snd hx).symm⟩

/-- A disguise that leaves bytes alone leaves dialogues alone. -/
theorem dialogue_eq_self (h : ∀ b, d.bytes b = b) (x : Dialogue α) : d.dialogue x = x := by
  have hframe : ∀ f, d.frame f = f := by
    intro f
    rcases f with e | bytes
    · rfl
    · exact congrArg Except.ok (h bytes)
  induction x with
  | finish result => rfl
  | note n x ih => exact congrArg (Dialogue.note n) ih
  | send f x ih =>
    unfold dialogue
    rw [hframe, ih]
  | receive next ih => exact congrArg Dialogue.receive (funext ih)
  | skipTo last x ih => exact congrArg (Dialogue.skipTo last) ih

end Disguise

end ProxyTunnel
