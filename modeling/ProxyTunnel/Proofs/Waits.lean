/-
A supervised session gives up where its token is looked at.

An attempt that is not ready ends with a wait, and no other attempt leaves a
wait behind (`Journal.Tries`). Whoever supervises an operation looks at the token
after each of them. So if the token has fired when the operation resumes, the
operation ends there and is cancelled (`Operation.heeds_await`). This carries
over to whatever is made of such operations, up to a whole dialogue
(`Dialogue.heeds_run`), and there is no other way to be cancelled.
-/
import ProxyTunnel.Proofs.Moments

set_option autoImplicit false

namespace ProxyTunnel

open Event

/-! ## Marks -/

/-- The entries after which a supervisor looks at the token: a wait, and the
start of a phase. -/
def Entry.isMark : Entry → Bool
  | .yielded | .opened => true
  | _ => false

/-- Whether an attempt was ready. -/
def Poll.isReady {α : Type} : Poll α → Bool
  | .ready _ => true
  | .pending => false

namespace Journal

/-- From one journal to a later one by one attempt: it leaves a wait behind if
and only if it was not ready. -/
def Tries (a b : Journal) (ready : Bool) : Prop :=
  ∃ added : Journal, added.all (!·.isMark) = true ∧
    b = a ++ added ++ if ready then [] else [.yielded]

variable {a b c xs : Journal} {ready : Bool}

theorem Tries.refl (a : Journal) : a.Tries a true :=
  ⟨[], rfl, by rw [List.append_nil, if_pos rfl, List.append_nil]⟩

theorem Tries.trans (h : a.Tries b true) (h' : b.Tries c ready) : a.Tries c ready := by
  obtain ⟨xs, hx, rfl⟩ := h
  obtain ⟨ys, hy, rfl⟩ := h'
  refine ⟨xs ++ ys, ?_, ?_⟩
  · rw [List.all_append, hx, hy]
    rfl
  · simp only [if_true, List.append_nil, List.append_assoc]

/-- One entry more that is no mark. -/
theorem Tries.add (h : a.Tries b true) {entry : Entry} (he : entry.isMark = false) :
    a.Tries (b ++ [entry]) true := by
  refine h.trans ⟨[entry], ?_, ?_⟩
  · rw [List.all_cons, he]
    rfl
  · rw [if_pos rfl, List.append_nil]

/-- Between two journals, whatever mark there is with the token fired before it
is the last entry, and so it was stopped. -/
def Heeds (token : Nat) (a b : Journal) (stopped : Prop) : Prop :=
  ∀ xs mark, mark.isMark = true → a.Adds b xs mark → xs.hasFired token = true →
    b = xs ++ [mark] ∧ stopped

variable {token : Nat} {stopped : Prop}

theorem heeds_refl (token : Nat) (a : Journal) (stopped : Prop) : Heeds token a a stopped :=
  fun _ _ _ h => absurd h (not_adds_self _ _ _)

/-- What was not stopped before is stopped later, if at all. -/
theorem Heeds.trans (h : Heeds token a b False) (hb : b <+: c)
    (h' : Heeds token b c stopped) : Heeds token a c stopped := by
  intro xs mark hmark hadds hfired
  rcases hadds.split hb with hone | hrest
  · exact (h xs mark hmark hone hfired).2.elim
  · exact h' xs mark hmark hrest hfired

theorem Heeds.mono {stopped' : Prop} (h : Heeds token a b stopped) (hs : stopped → stopped') :
    Heeds token a b stopped' := by
  intro xs mark hmark hadds hfired
  exact (h xs mark hmark hadds hfired).imp_right hs

/-- An attempt that was ready leaves no mark. -/
theorem Tries.not_adds (h : a.Tries b true) {mark : Entry} (hmark : mark.isMark = true) :
    ¬ a.Adds b xs mark := by
  obtain ⟨added, hall, rfl⟩ := h
  intro hadds
  rw [if_pos rfl, List.append_nil] at hadds
  have hno := List.all_eq_true.1 hall mark hadds.mem
  rw [hmark] at hno
  cases hno

/-- An attempt that was not ready leaves one mark, behind all else. -/
theorem Tries.last (h : a.Tries b false) {mark : Entry} (hmark : mark.isMark = true)
    (hadds : a.Adds b xs mark) : b = xs ++ [mark] := by
  obtain ⟨added, hall, rfl⟩ := h
  have hready : a.Tries (a ++ added) true := ⟨added, hall, by rw [if_pos rfl, List.append_nil]⟩
  rcases List.prefix_concat_iff.1 hadds.2 with heq | hlt
  · exact heq.symm
  · exact absurd ⟨hadds.1, hlt⟩ (hready.not_adds hmark)

theorem Tries.grows (h : a.Tries b ready) : a <+: b := by
  obtain ⟨added, _, rfl⟩ := h
  rw [List.append_assoc]
  exact List.prefix_append _ _

end Journal

/-! ## Attempts -/

theorem Script.tries_poll {α : Type} (rest : α) (script : Script α) (journal : Journal) :
    journal.Tries (poll rest script journal).2.2 (poll rest script journal).1.isReady := by
  induction script generalizing journal with
  | nil => exact .refl journal
  | cons step script ih =>
    rcases step with value | e | _ | token
    · exact .refl journal
    · exact .refl journal
    · exact ⟨[], rfl, by rw [List.append_nil]; rfl⟩
    · have hone : journal.Tries (journal ++ [.fired token]) true := (Journal.Tries.refl _).add rfl
      exact hone.trans (ih _)

namespace Socket

theorem tries_pollRead (room : Nat) (s : Socket) :
    s.journal.Tries (s.pollRead room).2.journal (s.pollRead room).1.isReady := by
  have h := Script.tries_poll [] s.reads s.journal
  unfold pollRead
  rcases hp : Script.poll [] s.reads s.journal with ⟨(e | bytes) | _, reads, journal⟩
  all_goals rw [hp] at h
  · exact h.add rfl
  · exact h.add rfl
  · exact h

theorem tries_pollWrite (bytes : Bytes) (s : Socket) :
    s.journal.Tries (s.pollWrite bytes).2.journal (s.pollWrite bytes).1.isReady := by
  have h := Script.tries_poll none s.writes s.journal
  unfold pollWrite
  rcases hp : Script.poll none s.writes s.journal with ⟨(e | limit) | _, writes, journal⟩
  all_goals rw [hp] at h
  · exact h.add rfl
  · exact h.add rfl
  · exact h

theorem tries_pollFlush (s : Socket) :
    s.journal.Tries s.pollFlush.2.journal s.pollFlush.1.isReady := by
  have h := Script.tries_poll () s.flushes s.journal
  unfold pollFlush
  rcases hp : Script.poll () s.flushes s.journal with ⟨(e | _) | _, flushes, journal⟩
  all_goals rw [hp] at h
  · exact h.add rfl
  · exact h.add rfl
  · exact h

theorem tries_pollWriteAll (bytes : Bytes) (s : Socket) :
    s.journal.Tries (s.pollWriteAll bytes).2.2.journal (s.pollWriteAll bytes).1.isReady := by
  fun_induction pollWriteAll bytes s with
  | case1 => exact .refl _
  | case2 bytes s _ s' h =>
    have hone := tries_pollWrite bytes s
    rw [h] at hone
    exact hone
  | case3 bytes s _ e s' h _ ih =>
    have hone := tries_pollWrite bytes s
    rw [h] at hone
    exact hone.trans ih
  | case4 bytes s _ e s' h =>
    have hone := tries_pollWrite bytes s
    rw [h] at hone
    exact hone
  | case5 bytes s _ s' h =>
    have hone := tries_pollWrite bytes s
    rw [h] at hone
    exact hone
  | case6 bytes s _ count s' h _ ih =>
    have hone := tries_pollWrite bytes s
    rw [h] at hone
    exact hone.trans ih

theorem tries_pollTransmit (bytes : Bytes) (s : Socket) :
    s.journal.Tries (s.pollTransmit bytes).2.2.journal (s.pollTransmit bytes).1.isReady := by
  have h := tries_pollWriteAll bytes s
  unfold pollTransmit
  rcases hw : s.pollWriteAll bytes with ⟨(e | ⟨⟩) | _, rest, s'⟩
  all_goals rw [hw] at h
  · exact h
  · exact h.trans (tries_pollFlush s')
  · exact h

end Socket

theorem Tunnel.tries_pollRead (room : Nat) (t : Tunnel) :
    t.socket.journal.Tries (t.pollRead room).2.socket.journal (t.pollRead room).1.isReady := by
  unfold pollRead
  split
  · exact Socket.tries_pollRead room t.socket
  · exact .refl _

namespace Sender

theorem tries_transmit (rest : Bytes) (s : Sender) :
    s.socket.journal.Tries (s.transmit rest).2.socket.journal (s.transmit rest).1.isFinished := by
  have h := Socket.tries_pollTransmit rest s.socket
  unfold transmit
  rcases hw : s.socket.pollTransmit rest with ⟨(e | ⟨⟩) | _, left, socket⟩
  all_goals rw [hw] at h; dsimp only
  · split
    · exact h.add rfl
    · exact h
  · exact h
  · exact h

/-- With nobody else's turn in the way, a write that is not over has to wait. -/
theorem tries_attempt (w : Write) (s : Sender) :
    s.socket.journal.Tries (s.attempt false w).2.socket.journal
      (s.attempt false w).1.isFinished := by
  unfold attempt begin
  split
  · exact .refl _
  · split
    · exact .refl _
    · rw [if_neg Bool.false_ne_true]
      split
      · exact .refl _
      · split
        · exact .refl _
        · exact tries_transmit _ s
  · split
    · exact .refl _
    · exact tries_transmit _ s

theorem tries_attemptOne (state : Write × Sender) :
    state.2.socket.journal.Tries (attemptOne state).2.2.socket.journal
      (attemptOne state).1.isReady := by
  have h := tries_attempt state.1 state.2
  unfold attemptOne
  rcases ha : state.2.attempt false state.1 with ⟨_ | rest | result, s'⟩
  all_goals rw [ha] at h; exact h

/-- A write is cancelled only where it sees that its token has fired. -/
theorem fired_of_cancelled {w : Write} {s : Sender} (hstage : w.stage.isFinished = false)
    (h : (s.attempt false w).1 = .finished (.error .cancelled)) :
    (s.attempt false w).2.hasFired w.token = true := by
  obtain ⟨events, _, ha⟩ := attempts_attempt false w s
  generalize s.attempt false w = after at h ha ⊢
  rcases after with ⟨stage, s'⟩
  dsimp only at h ha ⊢
  cases ha with
  | idles stage =>
    rw [stage] at hstage
    cases hstage
  | withdraws _ fired => exact fired
  | tears _ fired => exact fired
  | queues | drops | refuses => cases h
  | begins _ _ _ _ _ step | goesOn _ step =>
    cases step with
    | waits | delivers | closes | breaks => cases h

end Sender

/-! ## Supervised operations -/

/-- **An operation whose supervisor looks at the token** ends with the first wait
after which the token has fired. -/
theorem Operation.heeds_await {σ α : Type} (op : Operation σ α) (interrupt : σ → Option α)
    (journal : σ → Journal) (token : Nat) (stop : α)
    (htries : ∀ s, (journal s).Tries (journal (op.attempt s).2) (op.attempt s).1.isReady)
    (hinterrupt : ∀ s, interrupt s = if (journal s).hasFired token then some stop else none)
    (s : σ) :
    Journal.Heeds token (journal s) (journal (op.await interrupt s).2)
      ((op.await interrupt s).1 = stop) := by
  have key : journal s <+: journal (op.await interrupt s).2 ∧
      Journal.Heeds token (journal s) (journal (op.await interrupt s).2)
        ((op.await interrupt s).1 = stop) := by
    refine op.await_rec interrupt (motive := fun s r => journal s <+: journal r.2 ∧
      Journal.Heeds token (journal s) (journal r.2) (r.1 = stop)) ?_ ?_ ?_ s
    · intro s value s' h
      have hone := htries s
      rw [h] at hone
      exact ⟨hone.grows, fun xs mark hmark hadds _ => absurd hadds (hone.not_adds hmark)⟩
    · intro s value s' h hstop
      have hone := htries s
      rw [h] at hone
      refine ⟨hone.grows, fun xs mark hmark hadds _ => ⟨hone.last hmark hadds, ?_⟩⟩
      rw [hinterrupt] at hstop
      split at hstop
      · exact (Option.some.inj hstop).symm
      · cases hstop
    · intro s s' r h hnone ⟨hgrows, hrest⟩
      have hone := htries s
      rw [h] at hone
      refine ⟨hone.grows.trans hgrows, Journal.Heeds.trans ?_ hgrows hrest⟩
      -- the token had not fired when the operation resumed
      intro xs mark hmark hadds hfired
      have hlast := hone.last hmark hadds
      rw [hinterrupt, hlast, Journal.hasFired_append _ hfired, if_pos rfl] at hnone
      cases hnone
  exact key.2

/-- An operation that was stopped, by its supervisor or by itself, was stopped
because the token had fired. -/
theorem Operation.fired_of_stop {σ α : Type} (op : Operation σ α) (interrupt : σ → Option α)
    (journal : σ → Journal) (token : Nat) (stop : α) (valid : σ → Prop)
    (hready : ∀ s s', valid s → op.attempt s = (.ready stop, s') →
      (journal s').hasFired token = true)
    (hvalid : ∀ s s', valid s → op.attempt s = (.pending, s') → valid s')
    (hinterrupt : ∀ s, interrupt s = if (journal s).hasFired token then some stop else none)
    (s : σ) (hs : valid s) (h : (op.await interrupt s).1 = stop) :
    (journal (op.await interrupt s).2).hasFired token = true := by
  revert hs h
  refine op.await_rec interrupt (motive := fun s r => valid s → r.1 = stop →
    (journal r.2).hasFired token = true) ?_ ?_ ?_ s
  · rintro s value s' hattempt hs rfl
    exact hready s s' hs hattempt
  · intro s value s' _ hstop _ _
    rw [hinterrupt] at hstop
    split at hstop
    · assumption
    · cases hstop
  · intro s s' r hattempt _ ih hs
    exact ih (hvalid s s' hs hattempt)

namespace Session

/-- From one supervised session to a later one: it gave up where the token was
looked at and had fired, and was cancelled only if the token had fired. -/
structure Heeds (c d : Session) (cancelled : Prop) : Prop where
  grows : c.journal <+: d.journal
  marks : Journal.Heeds c.token c.journal d.journal cancelled
  fired : cancelled → d.hasFired = true
  token : d.token = c.token
  supervised : d.supervised = c.supervised

variable {c d e : Session} {cancelled : Prop}

theorem Heeds.refl (c : Session) : c.Heeds c False :=
  ⟨List.prefix_refl _, Journal.heeds_refl _ _ _, False.elim, rfl, rfl⟩

theorem Heeds.trans (h : c.Heeds d False) (h' : d.Heeds e cancelled) : c.Heeds e cancelled :=
  ⟨h.grows.trans h'.grows, h.marks.trans h'.grows (h.token ▸ h'.marks), h'.fired,
    h'.token.trans h.token, h'.supervised.trans h.supervised⟩

/-- Being cancelled, put another way. -/
theorem Heeds.congr {cancelled' : Prop} (h : c.Heeds d cancelled)
    (hiff : cancelled ↔ cancelled') : c.Heeds d cancelled' := by
  rwa [← propext hiff]

/-- A session that was not cancelled. -/
theorem Heeds.unless {cancelled' : Prop} (h : c.Heeds d cancelled) (hnot : ¬ cancelled)
    (hnot' : ¬ cancelled') : c.Heeds d cancelled' :=
  h.congr (iff_of_false hnot hnot')

/-- A failure is the same whatever was tried. -/
theorem cancelled_congr {α β : Type} {e : Failure} :
    (Except.error e : Except Failure α) = .error .cancelled ↔
      (Except.error e : Except Failure β) = .error .cancelled := by
  rw [Except.error.injEq, Except.error.injEq]

theorem heeds_note (n : Notice) (c : Session) : c.Heeds (c.note n) False := by
  refine ⟨List.prefix_append _ _, ?_, False.elim, rfl, rfl⟩
  intro xs mark hmark hadds
  have hnote : c.journal.Tries (c.note n).journal true := (Journal.Tries.refl _).add rfl
  exact absurd hadds (hnote.not_adds hmark)

/-- A send tries its write on until it is over, and its supervisor looks at the
token after every wait. -/
theorem heeds_send (h : c.supervised = true) (frame : Except WireError Bytes) :
    c.Heeds (c.send frame).2 ((c.send frame).1 = .error .cancelled) := by
  have hinterrupt : ∀ state : Write × Sender,
      (if c.supervised && state.2.hasFired c.token then
        some (Except.error Failure.cancelled : Except Failure Unit) else none) =
      if state.2.socket.journal.hasFired c.token then some (.error .cancelled) else none := by
    intro state
    rw [h, Bool.true_and]
    rfl
  refine ⟨(follows_send frame c).1, ?_, ?_, rfl, rfl⟩
  · exact Sender.sendingOne.heeds_await _ (·.2.socket.journal) c.token _ Sender.tries_attemptOne
      hinterrupt (Sender.newWrite c.token frame, c.sender)
  · refine Sender.sendingOne.fired_of_stop _ (·.2.socket.journal) c.token _
      (fun state => state.1.token = c.token ∧ state.1.stage.isFinished = false) ?_ ?_ hinterrupt
      (Sender.newWrite c.token frame, c.sender) ⟨rfl, rfl⟩
    · rintro ⟨w, s⟩ after ⟨htoken, hstage⟩ hready
      rw [← show w.token = c.token from htoken]
      have hfired := @Sender.fired_of_cancelled w s hstage
      simp only [Sender.sendingOne, Sender.attemptOne] at hready
      rcases ha : s.attempt false w with ⟨_ | left | result, s'⟩
      all_goals rw [ha] at hready hfired; cases hready
      exact hfired rfl
    · rintro ⟨w, s⟩ after ⟨htoken, _⟩ hpending
      simp only [Sender.sendingOne, Sender.attemptOne] at hpending
      rcases ha : s.attempt false w with ⟨_ | left | result, s'⟩
      all_goals rw [ha] at hpending; cases hpending
      all_goals exact ⟨htoken, rfl⟩

/-- Whatever becomes of the bytes that a read brings: no read is cancelled by
itself, and whoever waits for it looks at the token. -/
theorem heeds_fetch (h : c.supervised = true) (buffer : Bytes) (ended : Bool) :
    c.Heeds { c with tunnel := c.fetch.2, buffer, ended } (c.fetch.1 = .error .cancelled) := by
  have hinterrupt : ∀ t : Tunnel, c.giveUp t =
      if t.socket.journal.hasFired c.token then some (.error .cancelled) else none := by
    intro t
    rw [giveUp, h, Bool.true_and]
  refine ⟨follows_fetch c, ?_, ?_, rfl, rfl⟩
  · refine Operation.heeds_await _ _ (·.socket.journal) c.token _ ?_ hinterrupt c.tunnel
    intro t
    have hone := t.tries_pollRead c.limits.room
    simp only [Operation.map, Tunnel.reading]
    rcases hp : t.pollRead c.limits.room with ⟨(e | bytes) | _, t'⟩
    all_goals rw [hp] at hone; exact hone
  · refine Operation.fired_of_stop _ _ (·.socket.journal) c.token _ (fun _ => True) ?_ ?_
      hinterrupt c.tunnel trivial
    · intro t after _ hready
      simp only [Operation.map, Tunnel.reading] at hready
      rcases hp : t.pollRead c.limits.room with ⟨(e | bytes) | _, t'⟩
      all_goals rw [hp] at hready; cases hready
    · exact fun _ _ _ _ => trivial

variable {α : Type}

theorem heeds_next (rule : Option (Framing α)) (h : c.supervised = true) :
    c.Heeds (c.next rule).2.2 ((c.next rule).1 = some (.error .cancelled)) := by
  -- only a fetch can be cancelled
  have hbuffer : ∀ (c : Session) (rest : Bytes), c.Heeds { c with buffer := rest } False :=
    fun c _ => ⟨List.prefix_refl _, Journal.heeds_refl _ _ _, False.elim, rfl, rfl⟩
  fun_induction next rule c with
  | case1 c => exact (Heeds.refl c).unless id (by rintro ⟨⟩)
  | case2 c => exact (hbuffer c _).unless id (by rintro ⟨⟩)
  | case3 c => exact (hbuffer c _).unless id (by rintro ⟨⟩)
  | case4 c => exact (Heeds.refl c).unless id (by rintro ⟨⟩)
  | case5 c => exact (Heeds.refl c).unless id (by rintro ⟨⟩)
  | case6 c _ _ _ _ _ _ e tunnel hfetch =>
    have hone := heeds_fetch h c.buffer c.ended
    rw [hfetch] at hone
    exact hone.congr (cancelled_congr.trans Option.some_inj.symm)
  | case7 c _ _ _ _ _ _ tunnel hfetch =>
    have hone := heeds_fetch h c.buffer true
    rw [hfetch] at hone
    exact hone.unless (by rintro ⟨⟩) (by rintro ⟨⟩)
  | case8 c _ _ _ _ _ _ bytes tunnel hfetch _ ih =>
    have hone := heeds_fetch h (c.buffer ++ bytes) c.ended
    rw [hfetch] at hone
    exact (hone.unless (by rintro ⟨⟩) id).trans (ih h)

theorem heeds_receive (rule : Option (Framing α)) (h : c.supervised = true) :
    c.Heeds (c.receive rule).2.2 ((c.receive rule).1 = .error .cancelled) := by
  have hnext := heeds_next rule h
  unfold receive
  rcases hn : c.next rule with ⟨_ | result, rule', d⟩
  all_goals rw [hn] at hnext
  · exact hnext.unless (by rintro ⟨⟩) (by rintro ⟨⟩)
  · exact hnext.congr Option.some_inj

theorem heeds_skipTo (last : α → Bool) (rule : Option (Framing α)) (h : c.supervised = true) :
    c.Heeds (c.skipTo last rule).2.2 ((c.skipTo last rule).1 = .error .cancelled) := by
  fun_induction skipTo last rule c with
  | case1 rule c e rule' d hreceive =>
    have hone := heeds_receive rule h
    rw [hreceive] at hone
    exact hone.congr cancelled_congr
  | case2 rule c content rule' d hreceive _ =>
    have hone := heeds_receive rule h
    rw [hreceive] at hone
    exact hone.unless (by rintro ⟨⟩) (by rintro ⟨⟩)
  | case3 rule c content rule' d hreceive _ _ ih =>
    have hone := heeds_receive rule h
    rw [hreceive] at hone
    exact (hone.unless (by rintro ⟨⟩) id).trans (ih (hone.supervised.trans h))
  | case4 rule c content rule' d hreceive _ _ =>
    have hone := heeds_receive rule h
    rw [hreceive] at hone
    exact hone.unless (by rintro ⟨⟩) (by rintro ⟨⟩)

end Session

/-! ## Dialogues -/

namespace Dialogue

variable {α : Type}

/-- A dialogue that never ends by being cancelled, of its own accord. -/
def Persists : Dialogue α → Prop
  | finish result => result ≠ .error .cancelled
  | note _ d => d.Persists
  | send _ d => d.Persists
  | receive next => ∀ content, (next content).Persists
  | skipTo _ d => d.Persists

/-- **A supervised dialogue is cancelled where its session gives up**, and
nowhere else. -/
theorem heeds_run {d : Dialogue α} (hd : d.Persists) (rule : Option (Framing α)) {c : Session}
    (h : c.supervised = true) :
    c.Heeds (d.run rule c).2 ((d.run rule c).1 = .error .cancelled) := by
  -- a step that succeeds was not cancelled, so only the rest of the run can be
  induction d generalizing rule c with
  | finish result => exact (Session.Heeds.refl c).unless id hd
  | note n d ih => exact (Session.heeds_note n c).trans (ih hd rule h)
  | send frame d ih =>
    have hone := Session.heeds_send h frame
    unfold run
    rcases hsend : c.send frame with ⟨e | ⟨⟩, c₁⟩
    all_goals rw [hsend] at hone
    · exact hone
    · exact (hone.unless (by rintro ⟨⟩) id).trans (ih hd rule (hone.supervised.trans h))
  | receive next ih =>
    have hone := Session.heeds_receive rule h
    unfold run
    rcases hreceive : c.receive rule with ⟨e | content, rule₁, c₁⟩
    all_goals rw [hreceive] at hone
    · exact hone.congr Session.cancelled_congr
    · exact (hone.unless (by rintro ⟨⟩) id).trans
        (ih content (hd content) rule₁ (hone.supervised.trans h))
  | skipTo last d ih =>
    have hone := Session.heeds_skipTo last rule h
    unfold run
    rcases hskip : c.skipTo last rule with ⟨e | ⟨⟩, rule₁, c₁⟩
    all_goals rw [hskip] at hone
    · exact hone
    · exact (hone.unless (by rintro ⟨⟩) id).trans (ih hd rule₁ (hone.supervised.trans h))

end Dialogue

end ProxyTunnel
