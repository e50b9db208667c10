/-
A failed attempt releases its socket, once.

Closing a session shuts its socket down unless the sender was disposed before.
Within an attempt the sender is disposed exactly if a write or a flush found
nobody listening (`Session.Conducts`). One might expect a cancelled write to
dispose it as well, for a frame may be cut in the middle. But whoever supervises
the session looks at the token first whenever a write resumes, so the write
itself never sees that it fired (`Sender.disposed_send_of_error`). Hence the
trace of an attempt tells whether its socket was shut down
(`Route.connect_releases`).
-/
import ProxyTunnel.Proofs.Attempt
import ProxyTunnel.Proofs.Moments
import ProxyTunnel.Proofs.ShutDowns

set_option autoImplicit false

namespace ProxyTunnel

open Event

/-! ## Supervised writes -/

namespace Sender

/-- A write that goes on leaves the sender as it was. -/
theorem disposed_attempt {w : Write} {s : Sender} (h : (s.attempt false w).1.isFinished = false) :
    (s.attempt false w).2.disposed = s.disposed := by
  obtain ⟨events, _, ha⟩ := attempts_attempt false w s
  generalize s.attempt false w = after at h ha ⊢
  rcases after with ⟨stage, s'⟩
  dsimp only at h ha ⊢
  cases ha with
  | queues => rfl
  | idles | withdraws | drops | refuses | tears => cases h
  | begins _ _ _ _ _ step | goesOn _ step =>
    cases step with
    | waits _ _ _ kept => exact kept
    | delivers | closes | breaks => cases h

/-- A write that fails has torn nothing, or its token had fired while it sent. -/
theorem disposed_attempt_of_error {w : Write} {s : Sender} {cause : Failure}
    (unfired : ∀ rest, w.stage = .sending rest → s.hasFired w.token = false)
    (h : (s.attempt false w).1 = .finished (.error cause)) :
    (s.attempt false w).2.disposed = s.disposed := by
  obtain ⟨events, _, ha⟩ := attempts_attempt false w s
  generalize s.attempt false w = after at h ha ⊢
  rcases after with ⟨stage, s'⟩
  dsimp only at h ha ⊢
  cases ha with
  | idles | withdraws | refuses => rfl
  | queues | drops => cases h
  | tears hs fired => exact absurd ((unfired _ hs).symm.trans fired) Bool.false_ne_true
  | begins _ _ _ _ _ step | goesOn _ step =>
    cases step with
    | breaks _ _ _ _ kept => exact kept
    | waits | delivers | closes => cases h

/-- **A supervised write that fails leaves the sender as it was**, even if it is
cancelled in the middle of its frame. -/
theorem disposed_send_of_error {token : Nat} {frame : Except WireError Bytes} {s : Sender}
    {cause : Failure} (h : (s.send true token frame).1 = .error cause) :
    (s.send true token frame).2.disposed = s.disposed := by
  -- a write that resumes is one whose supervisor has found the token unfired
  have key := sendingOne.await_rec
    (fun state => if true && state.2.hasFired token then some (.error .cancelled) else none)
    (motive := fun start after => start.1.token = token →
      (∀ rest, start.1.stage = .sending rest → start.2.hasFired token = false) →
      after.1 = .error cause → after.2.2.disposed = start.2.disposed)
    ?_ ?_ ?_ (newWrite token frame, s)
  · exact key rfl (by rintro rest ⟨⟩) h
  · rintro ⟨w, s⟩ result after hready htoken unfired rfl
    obtain rfl : w.token = token := htoken
    simp only [sendingOne, attemptOne] at hready
    rcases hs : (s.attempt false w).1 with _ | left | result
    all_goals rw [hs] at hready; cases hready
    exact disposed_attempt_of_error unfired hs
  · rintro ⟨w, s⟩ result after hpending hstop _ _ _
    simp only [sendingOne, attemptOne] at hpending
    rcases hs : (s.attempt false w).1 with _ | left | result
    all_goals rw [hs] at hpending; cases hpending
    all_goals exact disposed_attempt (by rw [hs]; rfl)
  · rintro ⟨w, s⟩ next after hpending hnone ih htoken unfired herror
    simp only [sendingOne, attemptOne] at hpending
    have hunfired : next.2.hasFired token = false := by
      rw [Bool.eq_false_iff]
      intro hfired
      rw [hfired] at hnone
      cases hnone
    rcases hs : (s.attempt false w).1 with _ | left | result
    all_goals rw [hs] at hpending; cases hpending
    all_goals
      exact (ih htoken (fun _ _ => hunfired) herror).trans (disposed_attempt (by rw [hs]; rfl))

end Sender

/-! ## Supervised sessions -/

namespace Session

/-- From one supervised session to a later one: no shutdown, and the sender was
disposed exactly if nobody listened. -/
structure Conducts (c d : Session) : Prop where
  events : ∃ events, c.journal.Gains d.journal events ∧ events.any isShutDown = false ∧
    d.disposed = (c.disposed || events.any closesSink)
  supervised : d.supervised = c.supervised

variable {c d e : Session}

theorem Conducts.refl (c : Session) : c.Conducts c :=
  ⟨⟨[], .refl _, rfl, (Bool.or_false _).symm⟩, rfl⟩

theorem Conducts.trans (h : c.Conducts d) (h' : d.Conducts e) : c.Conducts e := by
  obtain ⟨⟨xs, hg, hx, hd⟩, hs⟩ := h
  obtain ⟨⟨ys, hg', hy, he⟩, hs'⟩ := h'
  refine ⟨⟨xs ++ ys, hg.trans hg', ?_, ?_⟩, hs'.trans hs⟩
  · rw [List.any_append, hx, hy]
    rfl
  · rw [he, hd, List.any_append, Bool.or_assoc]

theorem conducts_note (n : Notice) (c : Session) : c.Conducts (c.note n) :=
  ⟨⟨[], (Journal.Gains.refl _).notice n, rfl, (Bool.or_false _).symm⟩, rfl⟩

/-- A send finds nobody listening, or leaves the sender as it was. -/
theorem conducts_send (h : c.supervised = true) (frame : Except WireError Bytes) :
    c.Conducts (c.send frame).2 := by
  obtain ⟨events, hg, hsends⟩ := sends frame c
  have hsent : events.all isSent = true :=
    (Sender.gainsOnly_send c.supervised c.token frame c.sender).all hg
  have hkept : ∀ {cause : Failure}, (c.send frame).1 = .error cause →
      (c.send frame).2.sender.disposed = c.disposed := by
    intro cause herror
    unfold send at herror ⊢
    rw [h] at herror ⊢
    exact Sender.disposed_send_of_error herror
  refine ⟨⟨events, hg, ?_, ?_⟩, rfl⟩
  · rw [List.any_eq_false]
    intro e he
    rw [isShutDown_of_isSent (List.all_eq_true.1 hsent e he)]
    exact Bool.false_ne_true
  change (c.send frame).2.sender.disposed = _
  generalize (c.send frame).2.sender = s at hsends hkept ⊢
  generalize (c.send frame).1 = result at hsends hkept
  cases hsends with
  | drops gone => exact (Bool.or_false _).symm
  | refuses => exact (Bool.or_false _).symm
  | withdraws => exact (Bool.or_false _).symm
  | sends _ usable rest =>
    cases rest with
    | delivers out heard kept => rw [heard, Bool.or_false, kept]; rfl
    | closes part out unheard gone => rw [unheard, Bool.or_true, gone]
    | fails part out heard => rw [heard, Bool.or_false, hkept rfl]

/-- Listening neither disposes a sender nor shuts a socket down. -/
theorem Listens.conducts (h : c.Listens d) : c.Conducts d := by
  obtain ⟨events, hg, hall⟩ := h.reads
  refine ⟨⟨events, hg, ?_, ?_⟩, h.supervised⟩
  · rw [List.any_eq_false]
    intro e he
    rw [isShutDown_of_isRead (List.all_eq_true.1 hall e he)]
    exact Bool.false_ne_true
  · rw [not_closesSink_of_isRead hall, Bool.or_false, h.disposed]

end Session

/-- **A supervised dialogue leaves the socket open**, and tells by its events
whether the sender was disposed. -/
theorem Dialogue.conducts_run {α : Type} (d : Dialogue α) (rule : Option (Framing α))
    {c : Session} (h : c.supervised = true) : c.Conducts (d.run rule c).2 := by
  -- each step keeps the session supervised, which is what a send of the next needs
  induction d generalizing rule c with
  | finish result => exact .refl c
  | note n d ih => exact (Session.conducts_note n c).trans (ih rule h)
  | send frame d ih =>
    have hone := Session.conducts_send h frame
    unfold run
    rcases hsend : c.send frame with ⟨e | ⟨⟩, c₁⟩
    all_goals rw [hsend] at hone
    · exact hone
    · exact hone.trans (ih rule (hone.supervised.trans h))
  | receive next ih =>
    have hone := (Session.listens_receive rule c).conducts
    unfold run
    rcases hreceive : c.receive rule with ⟨e | content, rule₁, c₁⟩
    all_goals rw [hreceive] at hone
    · exact hone
    · exact hone.trans (ih content rule₁ (hone.supervised.trans h))
  | skipTo last d ih =>
    have hone := (Session.listens_skipTo last rule c).conducts
    unfold run
    rcases hskip : c.skipTo last rule with ⟨e | ⟨⟩, rule₁, c₁⟩
    all_goals rw [hskip] at hone
    · exact hone
    · exact hone.trans (ih rule₁ (hone.supervised.trans h))

namespace Route

theorem conducts_negotiate (k : Route) (remote : Destination) {c : Session}
    (h : c.supervised = true) : c.Conducts (k.negotiate remote c).2 := by
  unfold negotiate
  split
  · exact .refl c
  · unfold Handshake.negotiate
    split
    · exact Dialogue.conducts_run _ _ h
    · exact Dialogue.conducts_run _ _ h

/-- A session that is closed is shut down unless its sender was disposed. -/
theorem gains_close (reason : CloseReason) (c : Session) : ∃ closing,
    (c.close reason).journal = c.journal ++ closing ∧
      (c.disposed = true → closing.events = []) ∧
      (c.disposed = false →
        closing.events = [.shutDown] ∨ ∃ fault, closing.events = [.shutDownFailed fault]) := by
  obtain ⟨events, ⟨added, hadded, rfl⟩, hgone, husable⟩ :=
    Sender.gains_dispose (c.note (.closing reason)).sender
  refine ⟨.notice (.closing reason) :: added, ?_, hgone, husable⟩
  change (c.note (.closing reason)).sender.dispose.socket.journal = _
  rw [hadded]
  exact List.append_assoc c.journal [.notice (.closing reason)] added

/-- What lies between the start of an attempt and the end of its handshake. -/
theorem during_negotiate (k : Route) (remote : Destination) {script left : Script Unit}
    {transport : Tunnel} {journal : Journal} {result : Option (Except SocketError Unit)}
    (dialed : dial script transport.socket.journal = (result, left, journal)) :
    ∃ during, (k.negotiate remote (k.opened transport journal)).2.journal =
        transport.socket.journal ++ during ∧ .opened ∈ during ∧
      during.events.any isShutDown = false ∧
      (k.negotiate remote (k.opened transport journal)).2.disposed =
        during.events.any closesSink := by
  have hidle := idle_dial script transport.socket.journal
  rw [dialed] at hidle
  obtain ⟨⟨_, ⟨added, hadded, rfl⟩, hopen, hdisposed⟩, _⟩ :=
    k.conducts_negotiate remote (c := k.opened transport journal) rfl
  obtain ⟨waits, hwaits, hnone, _⟩ := hidle.added
  refine ⟨waits ++ .opened :: added, ?_, List.mem_append_right _ List.mem_cons_self, ?_, ?_⟩
  · rw [hadded]
    change journal ++ [.opened] ++ added = _
    rw [show journal = _ from hwaits]
    simp only [List.append_assoc, List.singleton_append]
  · rw [Journal.events_append, hnone]
    exact hopen
  · rw [Journal.events_append, hnone]
    exact hdisposed

/-- After its handshake was found to have failed, an attempt does nothing to the
socket but shut it down, once; if a write or a flush had found nobody listening,
not even that. -/
def Released (k : Route) (destination : Destination) (cause : Failure) (added : Journal) : Prop :=
  ∃ during closing : Journal,
    added = during ++ .notice (.handshakeFailed k.proxy destination cause) :: closing ∧
    during.events.any isShutDown = false ∧
    (during.events.any closesSink = false →
      closing.events = [.shutDown] ∨ ∃ fault, closing.events = [.shutDownFailed fault]) ∧
    (during.events.any closesSink = true → closing.events = [])

/-- An attempt whose transport has opened ends released, or with the socket open. -/
theorem released_conclude (k : Route) (remote : Destination) {c : Session} {before during : Journal}
    (hjournal : c.journal = before ++ during) (hopen : during.events.any isShutDown = false)
    (hdisposed : c.disposed = during.events.any closesSink) (result : Except Failure Unit) :
    ∃ added, (k.conclude remote (result, c)).journal = before ++ added ∧ during <+: added ∧
      match result with
      | .ok () => added.events.any isShutDown = false
      | .error cause => k.Released remote cause added := by
  rcases result with cause | ⟨⟩
  · obtain ⟨closing, hclosing, hgone, husable⟩ :=
      gains_close .protocolError (c.note (.handshakeFailed k.proxy remote cause))
    refine ⟨during ++ .notice (.handshakeFailed k.proxy remote cause) :: closing, ?_,
      List.prefix_append _ _, during, closing, rfl, hopen, ?_, ?_⟩
    · change ((c.note (.handshakeFailed k.proxy remote cause)).close .protocolError).journal = _
      rw [hclosing]
      change c.journal ++ [_] ++ closing = _
      rw [hjournal]
      simp only [List.append_assoc, List.singleton_append]
    · intro hheard
      exact husable (hdisposed.trans hheard)
    · intro hunheard
      exact hgone (hdisposed.trans hunheard)
  · refine ⟨during ++ [.notice (.established remote k.proxy),
      .notice (.detaching c.buffer.length)], ?_, List.prefix_append _ _, ?_⟩
    · change c.journal ++ [_] ++ [_] = _
      rw [hjournal]
      simp only [List.append_assoc, List.singleton_append]
      rfl
    · dsimp only
      rw [Journal.events_append, List.any_append, hopen]
      rfl

/-- **A failed attempt releases its socket, once, and never hands it out.** For
every attempt on a route:

* if it fails before its transport has opened, nothing reaches the socket;
* if it fails later, then after the handshake was found to have failed nothing
  reaches the socket but one shutdown, done or failed, and not even that if a
  write or a flush had found nobody listening (`Released`);
* if it succeeds, it has no cause and the socket was not shut down;
* what the shutdown comes to never changes the cause. -/
theorem connect_releases (k : Route) (remote : Except AddressError Destination)
    (script : Script Unit) (transport : Tunnel) :
    let outcome := k.connect remote script transport
    (∃ added, outcome.journal = transport.socket.journal ++ added ∧
      (∀ cause socket, outcome = .failed cause socket →
        (.opened ∉ added → added.events = []) ∧
        (.opened ∈ added → ∃ destination, remote = .ok destination ∧
          k.Released destination cause added)) ∧
      ∀ tunnel, outcome = .established tunnel →
        outcome.cause? = none ∧ added.events.any isShutDown = false) ∧
    ∀ shutDowns, (k.connect remote script (transport.ending shutDowns)).cause? =
      outcome.cause? := by
  intro outcome
  refine ⟨?_, fun shutDowns => k.cause_ending shutDowns remote script transport⟩
  obtain ⟨_, _, added, houtcome, hadded, hnone, hclosed⟩ |
    ⟨destination, _, journal, rfl, dialed, houtcome⟩ :=
      k.fails_or_negotiates remote script transport
  all_goals rw [show outcome = _ from houtcome]
  · exact ⟨added, hadded, fun _ _ _ => ⟨fun _ => hnone, fun ho => absurd ho hclosed⟩, nofun⟩
  obtain ⟨during, hjournal, hopened, hopen, hdisposed⟩ := k.during_negotiate destination dialed
  generalize k.negotiate destination (k.opened transport journal) = after at hjournal hdisposed ⊢
  rcases after with ⟨result, c⟩
  dsimp only at hjournal hdisposed
  obtain ⟨added, hadded, hbegins, hends⟩ :=
    k.released_conclude destination hjournal hopen hdisposed result
  have hmem : .opened ∈ added := hbegins.subset hopened
  refine ⟨added, hadded, ?_, ?_⟩
  · intro cause socket hfailed
    refine ⟨fun hno => absurd hmem hno, fun _ => ⟨destination, rfl, ?_⟩⟩
    rcases result with e | ⟨⟩
    · cases hfailed
      exact hends
    · cases hfailed
  · intro tunnel hmade
    rcases result with e | ⟨⟩
    · cases hmade
    · exact ⟨rfl, hends⟩

/-- A way to a tunnel through a SOCKS5 proxy that wants no credentials. -/
def plainRoute : Route := ⟨.ip (.ip4 ⟨10, 0, 0, 1⟩ 1080), ⟨.socks5, none⟩, .standard⟩

/-- A socket that takes one byte of the first frame. Then the token fires and
the caller has to wait. -/
def severed : Tunnel := .ofSocket ⟨[], [.ready (some 1), .fire 0, .pending], [], [], []⟩

/-- A handshake that is cancelled in the middle of its first frame: the socket
is shut down, and a shutdown that fails would not change the cause. -/
theorem connect_releases_severed :
    let outcome := plainRoute.connect (.ok (.named "a" 80)) [] severed
    outcome.cause? = some .cancelled ∧
      (∃ during closing : Journal, outcome.journal = during ++
        .notice (.handshakeFailed plainRoute.proxy (.named "a" 80) .cancelled) :: closing ∧
        (closing.events = [.shutDown] ∨ ∃ fault, closing.events = [.shutDownFailed fault])) ∧
      (plainRoute.connect (.ok (.named "a" 80)) []
        (severed.ending [.fail ⟨.timedOut, "late"⟩])).cause? = some .cancelled := by
  intro outcome
  have hcause : outcome.cause? = some .cancelled := by decide +kernel
  have hopened : .opened ∈ outcome.journal := by decide +kernel
  have hheard : outcome.journal.events.any closesSink = false := by decide +kernel
  obtain ⟨⟨added, hadded, hfailed, _⟩, hends⟩ :=
    connect_releases plainRoute (.ok (.named "a" 80)) [] severed
  obtain rfl : outcome.journal = added := hadded
  refine ⟨hcause, ?_, (hends _).trans hcause⟩
  rcases houtcome : outcome with tunnel | ⟨cause, socket⟩
  · rw [houtcome] at hcause
    cases hcause
  obtain rfl : cause = .cancelled := by
    rw [houtcome] at hcause
    exact Option.some.inj hcause
  obtain ⟨destination, hremote, during, closing, heq, _, hshut, _⟩ :=
    (hfailed _ socket houtcome).2 hopened
  cases hremote
  rw [heq, Journal.events_append, List.any_append, Bool.or_eq_false_iff] at hheard
  rw [← houtcome]
  exact ⟨during, closing, heq, hshut hheard.1⟩

end Route

end ProxyTunnel
