/-
Cancellation is honoured wherever an attempt can be suspended.

The token of an attempt is looked at when the attempt begins, when each of its
phases begins, whenever a phase resumes, and when a frame is about to be sent.
If it has fired by one of these moments, the phase ends there and is cancelled
(`Route.heeds_phases`). In between it is not looked at: a frame that was begun in
time may still go out, but no other is begun (`Route.begins_in_time`,
`Route.stops_at_send`). And an attempt is cancelled for no other reason
(`Route.fired_of_cancelled`). `Route.connect_cancels` puts this together.
-/
import ProxyTunnel.Proofs.Release
import ProxyTunnel.Proofs.Waits

set_option autoImplicit false

namespace ProxyTunnel

open Event

/-! ## Sends that come too late -/

/-- A send whose token has fired leaves no trace. -/
theorem Session.send_of_fired {c : Session} (h : c.hasFired = true)
    (frame : Except WireError Bytes) : c.send frame = (.error .cancelled, c) := by
  have hattempt : c.sender.attempt false (Sender.newWrite c.token frame) =
      (.finished (.error .cancelled), c.sender) := if_pos h
  have hready : Sender.sendingOne.attempt (Sender.newWrite c.token frame, c.sender) =
      (.ready (.error .cancelled), ({ Sender.newWrite c.token frame with
        stage := .finished (.error .cancelled) }, c.sender)) := by
    simp only [Sender.sendingOne, Sender.attemptOne, hattempt]
  unfold send Sender.send
  dsimp only
  rw [Operation.await_of_ready hready]
  rfl

namespace Dialogue

variable {α : Type} {d : Dialogue α} {rule : Option (Framing α)} {c start : Session}
  {frame : Except WireError Bytes}

/-- A run that comes to a send too late is cancelled there. -/
theorem ComesToSend.run_of_fired (h : d.ComesToSend rule c frame start)
    (hfired : start.hasFired = true) : d.run rule c = (.error .cancelled, start) := by
  obtain ⟨next, rule', hreach⟩ := h
  rw [hreach.run_eq, run, Session.send_of_fired hfired]

/-- A frame whose send came too late has no bytes in the journal. -/
theorem unfired_of_adds {xs : Journal} {entry : Entry}
    (h : start.journal.Adds (start.send frame).2.journal xs entry) : start.hasFired = false := by
  rw [Bool.eq_false_iff]
  intro hfired
  rw [Session.send_of_fired hfired] at h
  exact Journal.not_adds_self _ _ _ h

end Dialogue

/-! ## Handshakes -/

/-- No SOCKS5 handshake is cancelled of its own accord. -/
theorem Socks.persists_dialogue (credentials : Option Credentials) (remote : Destination) :
    (Socks.dialogue credentials remote).Persists := by
  have hrequest : (Socks.requestDialogue remote).Persists := by
    intro answer
    dsimp only
    split
    · exact nofun
    · exact nofun
  have hrefusal : ∀ method, (Socks.refusal method).Persists := fun _ => nofun
  intro answer
  change (Socks.afterMethod credentials remote (Socks.Method.ofByte answer.status)).Persists
  rcases Socks.Method.ofByte answer.status with _ | _ | _ | _ | code
  · exact hrequest
  · exact hrefusal _
  · rcases credentials with _ | c
    · exact hrefusal _
    · intro verdict
      dsimp only
      split
      · exact hrequest
      · exact nofun
  · exact hrefusal _
  · exact hrefusal _

/-- No HTTP handshake is cancelled of its own accord. -/
theorem Http.persists_dialogue (credentials : Option Credentials) (remote : Destination) :
    (Http.dialogue credentials remote).Persists := by
  intro line
  unfold Http.afterStatus
  split
  · exact nofun
  · exact nofun

namespace Handshake

/-- A negotiation comes to the send of this frame in this session. -/
def ComesToSend (h : Handshake) (remote : Destination) (c : Session)
    (frame : Except WireError Bytes) (start : Session) : Prop :=
  match h.kind with
  | .socks5 => (Socks.dialogue (Socks.effective h.credentials) remote).ComesToSend
      (some Socks.Answer.framing) c frame start
  | .http => (Http.dialogue (Http.effective h.credentials) remote).ComesToSend
      (some Http.framing) c frame start

variable (h : Handshake) (remote : Destination) {c : Session}

theorem heeds_negotiate (hc : c.supervised = true) :
    c.Heeds (h.negotiate remote c).2 ((h.negotiate remote c).1 = .error .cancelled) := by
  unfold negotiate
  split
  · exact Dialogue.heeds_run (Socks.persists_dialogue _ _) _ hc
  · exact Dialogue.heeds_run (Http.persists_dialogue _ _) _ hc

theorem wrote_negotiate {xs : Journal} {bytes : Bytes}
    (hadds : c.journal.Adds (h.negotiate remote c).2.journal xs (.event (.wrote bytes))) :
    ∃ frame start, h.ComesToSend remote c frame start ∧
      start.journal.Adds (start.send frame).2.journal xs (.event (.wrote bytes)) := by
  unfold negotiate at hadds
  unfold ComesToSend
  rcases hk : h.kind with _ | _
  all_goals
    rw [hk] at hadds
    exact Dialogue.wrote_run _ hadds

theorem negotiate_of_fired {frame : Except WireError Bytes} {start : Session}
    (hsend : h.ComesToSend remote c frame start) (hfired : start.hasFired = true) :
    h.negotiate remote c = (.error .cancelled, start) := by
  unfold ComesToSend at hsend
  unfold negotiate
  rcases hk : h.kind with _ | _
  all_goals
    rw [hk] at hsend
    exact Dialogue.ComesToSend.run_of_fired hsend hfired

end Handshake

/-! ## Attempts -/

/-- Nothing reaches the socket by waits and fired tokens. -/
theorem Journal.Idles.not_adds_event {a b : Journal} (h : a.Idles b) (xs : Journal) (e : Event) :
    ¬ a.Adds b xs (.event e) := by
  obtain ⟨added, rfl, hnone, _⟩ := h.added
  intro hadds
  have hmem := hadds.event_mem (⟨added, rfl, hnone⟩ : a.Gains _ [])
  exact absurd hmem List.not_mem_nil

namespace Route

variable (k : Route) (remote : Except AddressError Destination) (script : Script Unit)
  (transport : Tunnel)

/-- Everything that happened up to the end of the last phase of an attempt,
before anybody is told how it went and the socket is released or handed out. -/
def phases : Journal :=
  if transport.socket.journal.hasFired Session.attemptToken then transport.socket.journal
  else match remote with
    | .error _ => transport.socket.journal
    | .ok destination =>
      match dial script transport.socket.journal with
      | (some (.ok ()), _, journal) =>
        (k.negotiate destination (k.opened transport journal)).2.journal
      | (_, _, journal) => journal

/-- The handshake of an attempt comes to the send of this frame in this session. -/
def ComesToSend (frame : Except WireError Bytes) (start : Session) : Prop :=
  ∃ destination left journal, remote = .ok destination ∧
    transport.socket.journal.hasFired Session.attemptToken = false ∧
    dial script transport.socket.journal = (some (.ok ()), left, journal) ∧
    (k.opened transport journal).hasFired = false ∧
    k.handshake.ComesToSend destination (k.opened transport journal) frame start

variable {k remote script transport}

theorem phases_of_fired
    (h : transport.socket.journal.hasFired Session.attemptToken = true) :
    k.phases remote script transport = transport.socket.journal := if_pos h

theorem phases_of_misaddressed (e : AddressError) :
    k.phases (.error e) script transport = transport.socket.journal := ite_self _

section

variable {destination : Destination} {left : Script Unit} {journal : Journal}
  (unfired : transport.socket.journal.hasFired Session.attemptToken = false)
include unfired

/-- An attempt whose transport does not open has no second phase. -/
theorem phases_of_unopened {result : Option (Except SocketError Unit)}
    (dialed : dial script transport.socket.journal = (result, left, journal))
    (hresult : result ≠ some (.ok ())) :
    k.phases (.ok destination) script transport = journal := by
  unfold phases
  rw [unfired, if_neg Bool.false_ne_true]
  dsimp only
  rw [dialed]
  rcases result with _ | (e | ⟨⟩)
  · rfl
  · rfl
  · exact absurd rfl hresult

theorem phases_of_opened
    (dialed : dial script transport.socket.journal = (some (.ok ()), left, journal)) :
    k.phases (.ok destination) script transport =
      (k.negotiate destination (k.opened transport journal)).2.journal := by
  unfold phases
  rw [unfired, if_neg Bool.false_ne_true]
  dsimp only
  rw [dialed]

end

/-! ### Where an attempt is cancelled -/

theorem heeds_dial (script : Script Unit) (journal : Journal) :
    Journal.Heeds Session.attemptToken journal (dial script journal).2.2
      ((dial script journal).1 = none) := by
  refine (dialing.map some).heeds_await _ (·.2) Session.attemptToken none ?_ (fun _ => rfl)
    (script, journal)
  rintro ⟨script, journal⟩
  have hone := Script.tries_poll () script journal
  simp only [Operation.map, dialing]
  rcases hp : Script.poll () script journal with ⟨result | _, left, journal'⟩
  all_goals rw [hp] at hone; exact hone

/-- The transport is given up only if the token has fired. -/
theorem fired_of_abandoned {script : Script Unit} {journal : Journal}
    (h : (dial script journal).1 = none) :
    (dial script journal).2.2.hasFired Session.attemptToken = true := by
  refine (dialing.map some).fired_of_stop _ (·.2) Session.attemptToken none (fun _ => True) ?_ ?_
    (fun _ => rfl) (script, journal) trivial h
  · rintro ⟨script, journal⟩ after _ hready
    simp only [Operation.map, dialing] at hready
    rcases hp : Script.poll () script journal with ⟨result | _, left, journal'⟩
    all_goals rw [hp] at hready; cases hready
  · exact fun _ _ _ _ => trivial

theorem heeds_negotiate (k : Route) (destination : Destination) {c : Session}
    (h : c.supervised = true) :
    c.Heeds (k.negotiate destination c).2 ((k.negotiate destination c).1 = .error .cancelled) := by
  unfold negotiate
  split
  · exact ⟨List.prefix_refl _, Journal.heeds_refl _ _ _, fun _ => ‹_›, rfl, rfl⟩
  · exact k.handshake.heeds_negotiate destination h

/-- The handshake heeds the token, and so does its beginning. -/
theorem heeds_opened (k : Route) (destination : Destination) (transport : Tunnel)
    (journal : Journal) :
    Journal.Heeds Session.attemptToken journal
      (k.negotiate destination (k.opened transport journal)).2.journal
      ((k.negotiate destination (k.opened transport journal)).1 = .error .cancelled) := by
  intro xs mark hmark hadds hfired
  have hneg := k.heeds_negotiate destination (c := k.opened transport journal) rfl
  rcases hadds.split hneg.grows with hone | hrest
  · obtain ⟨rfl, rfl⟩ := hone.single
    have hopened : (k.opened transport xs).hasFired = true :=
      Journal.hasFired_append [.opened] hfired
    unfold negotiate
    rw [hopened, if_pos rfl]
    exact ⟨rfl, rfl⟩
  · exact hneg.marks xs mark hmark hrest hfired

/-- After its last phase an attempt only shuts the socket down, if that. -/
theorem gainsOnly_conclude (k : Route) (destination : Destination) (result : Except Failure Unit)
    (c : Session) :
    c.journal.GainsOnly isShutDown (k.conclude destination (result, c)).journal := by
  rcases result with cause | ⟨⟩
  · have hnoted := (Journal.GainsOnly.refl isShutDown c.journal).notice
      (.handshakeFailed k.proxy destination cause)
    exact (hnoted.notice (.closing .protocolError)).trans (Sender.gainsOnly_dispose _)
  · have hnoted := (Journal.GainsOnly.refl isShutDown c.journal).notice
      (.established destination k.proxy)
    exact hnoted.notice (.detaching c.buffer.length)

/-- How an attempt that began with one journal, and whose phases ended with
another, heeded its token. -/
structure Heeds (before ended : Journal) (outcome : Outcome) : Prop where
  grows : before <+: ended
  /-- Where the token is looked at and has fired, everything ends. -/
  marks : Journal.Heeds Session.attemptToken before ended (outcome.cause? = some .cancelled)
  fired : outcome.cause? = some .cancelled → ended.hasFired Session.attemptToken = true
  /-- After the last phase the socket is only shut down, if that. -/
  only : ended.GainsOnly isShutDown outcome.journal

/-- **Every attempt heeds its token.** -/
theorem heeds_connect (k : Route) (remote : Except AddressError Destination)
    (script : Script Unit) (transport : Tunnel) :
    Heeds transport.socket.journal (k.phases remote script transport)
      (k.connect remote script transport) := by
  have hgrows := journal_dial_grows script transport.socket.journal
  have hheeds := heeds_dial script transport.socket.journal
  have hruns := k.runs_connect remote script transport
  generalize k.connect remote script transport = outcome at hruns
  cases hruns with
  | withdrawn fired =>
    rw [phases_of_fired fired]
    exact ⟨List.prefix_refl _, Journal.heeds_refl _ _ _, fun _ => fired, .refl _ _⟩
  | misaddressed unfired =>
    rw [phases_of_misaddressed]
    exact ⟨List.prefix_refl _, Journal.heeds_refl _ _ _, nofun, .refl _ _⟩
  | abandoned unfired dialed =>
    have hfired := @fired_of_abandoned script transport.socket.journal
    rw [dialed] at hgrows hheeds hfired
    rw [phases_of_unopened unfired dialed nofun]
    exact ⟨hgrows, hheeds.mono fun _ => rfl, fun _ => hfired rfl, .refl _ _⟩
  | unreachable unfired dialed =>
    rw [dialed] at hgrows hheeds
    rw [phases_of_unopened unfired dialed nofun]
    exact ⟨hgrows, hheeds.mono nofun, nofun, (Journal.GainsOnly.refl _ _).notice _⟩
  | @negotiated destination left journal unfired dialed =>
    have hopened := k.heeds_opened destination transport journal
    have hneg := k.heeds_negotiate destination (c := k.opened transport journal) rfl
    have hall : journal <+: (k.negotiate destination (k.opened transport journal)).2.journal :=
      (List.prefix_append journal [.opened]).trans hneg.grows
    rw [dialed] at hgrows hheeds
    rw [phases_of_opened unfired dialed]
    generalize k.negotiate destination (k.opened transport journal) = after at *
    rcases after with ⟨result, c⟩
    have hcause : (k.conclude destination (result, c)).cause? = some .cancelled ↔
        result = .error .cancelled := by
      rw [cause_conclude]
      rcases result with cause | ⟨⟩
      · rw [Option.some_inj, Except.error.injEq]
      · exact iff_of_false nofun nofun
    refine ⟨hgrows.trans hall, ?_, ?_, k.gainsOnly_conclude destination result c⟩
    · rw [hcause]
      exact (hheeds.mono nofun).trans hall hopened
    · intro hcancelled
      rw [← show c.token = Session.attemptToken from hneg.token]
      exact hneg.fired (hcause.1 hcancelled)

/-! ### What goes out -/

section

variable {k : Route} {remote : Except AddressError Destination} {script : Script Unit}
  {transport : Tunnel}

/-- Whatever reaches the socket during the phases reaches it during the handshake. -/
theorem opened_of_adds {xs : Journal} {e : Event}
    (h : transport.socket.journal.Adds (k.phases remote script transport) xs (.event e)) :
    ∃ destination left journal, remote = .ok destination ∧
      transport.socket.journal.hasFired Session.attemptToken = false ∧
      dial script transport.socket.journal = (some (.ok ()), left, journal) ∧
      (k.opened transport journal).journal.Adds
        (k.negotiate destination (k.opened transport journal)).2.journal xs (.event e) := by
  have hdial := idle_dial script transport.socket.journal
  rcases hfired : transport.socket.journal.hasFired Session.attemptToken with _ | _
  · rcases remote with error | destination
    · rw [phases_of_misaddressed] at h
      exact absurd h (Journal.not_adds_self _ _ _)
    · rcases hd : dial script transport.socket.journal with ⟨_ | error | ⟨⟩, left, journal⟩
      all_goals rw [hd] at hdial
      · rw [phases_of_unopened hfired hd nofun] at h
        exact absurd h (hdial.not_adds_event xs e)
      · rw [phases_of_unopened hfired hd nofun] at h
        exact absurd h (hdial.not_adds_event xs e)
      · rw [phases_of_opened hfired hd] at h
        refine ⟨destination, left, journal, rfl, rfl, rfl, ?_⟩
        have hneg := k.heeds_negotiate destination (c := k.opened transport journal) rfl
        rcases h.split hneg.grows with hone | hrest
        · rcases hone.split (List.prefix_append journal [.opened]) with hwait | hopen
          · exact absurd hwait (hdial.not_adds_event xs e)
          · cases hopen.single.2
        · exact hrest
  · rw [phases_of_fired hfired] at h
    exact absurd h (Journal.not_adds_self _ _ _)

/-- **Every byte that the socket takes belongs to a frame whose write had begun
before the token fired.** -/
theorem begins_in_time {xs : Journal} {bytes : Bytes}
    (h : transport.socket.journal.Adds (k.connect remote script transport).journal xs
      (.event (.wrote bytes))) :
    ∃ frame start, k.ComesToSend remote script transport frame start ∧ start.hasFired = false ∧
      start.journal.Adds (start.send frame).2.journal xs (.event (.wrote bytes)) := by
  have honly := (k.heeds_connect remote script transport).only
  rcases h.split honly.grows with hphases | hrest
  · obtain ⟨destination, left, journal, hremote, hunfired, hdialed, hadds⟩ := opened_of_adds hphases
    unfold negotiate at hadds
    rcases hopened : (k.opened transport journal).hasFired with _ | _
    · rw [hopened, if_neg Bool.false_ne_true] at hadds
      obtain ⟨frame, start, hsend, hsent⟩ := k.handshake.wrote_negotiate destination hadds
      exact ⟨frame, start, ⟨destination, left, journal, hremote, hunfired, hdialed, hopened, hsend⟩,
        Dialogue.unfired_of_adds hsent, hsent⟩
    · rw [hopened, if_pos rfl] at hadds
      exact absurd hadds (Journal.not_adds_self _ _ _)
  · cases hrest.kind honly

/-- **A handshake that comes to a send too late is cancelled there.** -/
theorem stops_at_send {frame : Except WireError Bytes} {start : Session}
    (h : k.ComesToSend remote script transport frame start) (hfired : start.hasFired = true) :
    (k.connect remote script transport).cause? = some .cancelled ∧
      k.phases remote script transport = start.journal := by
  obtain ⟨destination, left, journal, rfl, hunfired, hdialed, hopened, hsend⟩ := h
  have hnegotiate : k.negotiate destination (k.opened transport journal) =
      (.error .cancelled, start) := by
    unfold negotiate
    rw [hopened, if_neg Bool.false_ne_true]
    exact k.handshake.negotiate_of_fired destination hsend hfired
  refine ⟨?_, ?_⟩
  · unfold connect
    rw [hunfired, if_neg Bool.false_ne_true]
    dsimp only
    unfold connectTo
    rw [hdialed]
    change (k.conclude destination
      (k.negotiate destination (k.opened transport journal))).cause? = _
    rw [hnegotiate]
    rfl
  · rw [phases_of_opened hunfired hdialed, hnegotiate]

end

/-- **Cancellation is honoured at every suspension point of an attempt.** For
every attempt on a route, and wherever its token fires:

* if the token has fired before, the attempt is cancelled at once, whatever the
  destination, and nothing happens;
* if it has fired when a phase begins or resumes, the attempt is cancelled and
  the phase ends there; from then on the socket is only shut down, if that;
* every byte that the socket takes belongs to a frame whose write had begun
  before the token fired;
* if the handshake comes to a frame after the token fired, the attempt is
  cancelled and the handshake ends there;
* the attempt is cancelled only if the token has fired, and succeeds only if it
  had not fired when it began and whenever a phase began or resumed. -/
theorem connect_cancels (k : Route) (remote : Except AddressError Destination)
    (script : Script Unit) (transport : Tunnel) :
    let outcome := k.connect remote script transport
    let before := transport.socket.journal
    let ended := k.phases remote script transport
    (before.hasFired Session.attemptToken = true →
      outcome = .failed .cancelled transport.socket) ∧
    before <+: ended ∧ ended.GainsOnly isShutDown outcome.journal ∧
    (∀ xs mark, mark.isMark = true → before.Adds ended xs mark →
      xs.hasFired Session.attemptToken = true →
      outcome.cause? = some .cancelled ∧ ended = xs ++ [mark]) ∧
    (∀ xs bytes, before.Adds outcome.journal xs (.event (.wrote bytes)) →
      ∃ frame start, k.ComesToSend remote script transport frame start ∧ start.hasFired = false ∧
        start.journal.Adds (start.send frame).2.journal xs (.event (.wrote bytes))) ∧
    (∀ frame start, k.ComesToSend remote script transport frame start → start.hasFired = true →
      outcome.cause? = some .cancelled ∧ ended = start.journal) ∧
    (outcome.cause? = some .cancelled → ended.hasFired Session.attemptToken = true) ∧
    (∀ tunnel, outcome = .established tunnel → before.hasFired Session.attemptToken = false ∧
      ∀ xs mark, mark.isMark = true → before.Adds ended xs mark →
        xs.hasFired Session.attemptToken = false) := by
  intro outcome before ended
  have hheeds : Heeds before ended outcome := k.heeds_connect remote script transport
  have hfirst : before.hasFired Session.attemptToken = true →
      outcome = .failed .cancelled transport.socket := fun hfired => if_pos hfired
  refine ⟨hfirst, hheeds.grows, hheeds.only, ?_, fun _ _ => begins_in_time,
    fun _ _ => stops_at_send, hheeds.fired, ?_⟩
  · intro xs mark hmark hadds hfired
    exact (hheeds.marks xs mark hmark hadds hfired).symm
  · intro tunnel houtcome
    refine ⟨?_, ?_⟩
    · rw [Bool.eq_false_iff]
      intro hfired
      rw [hfirst hfired] at houtcome
      cases houtcome
    · intro xs mark hmark hadds
      rw [Bool.eq_false_iff]
      intro hfired
      have hcause := (hheeds.marks xs mark hmark hadds hfired).2
      rw [houtcome] at hcause
      cases hcause

/-- A socket whose first write takes one byte, and then the token fires; the
rest of the frame goes out, and the proxy answers. -/
def belated : Tunnel := .ofSocket ⟨[.ready [5, 0]], [.ready (some 1), .fire 0], [], [], []⟩

/-- On one socket the token fires in the middle of the first frame, which still
goes out; the second is not begun. On the other the caller has to wait then,
and the rest of the first frame stays behind. -/
theorem connect_cancels_midway :
    let outcome := plainRoute.connect (.ok (.named "a" 80)) [] belated
    outcome.cause? = some .cancelled ∧ outcome.journal.written = [5, 1, 0] ∧
      (plainRoute.phases (.ok (.named "a" 80)) [] belated).hasFired Session.attemptToken = true ∧
      (∃ frame start, plainRoute.ComesToSend (.ok (.named "a" 80)) [] belated frame start ∧
        start.hasFired = false) ∧
      plainRoute.phases (.ok (.named "a" 80)) [] severed =
        [.opened, .event (.wrote [5]), .fired Session.attemptToken, .yielded] := by
  intro outcome
  have hcause : outcome.cause? = some .cancelled := by decide +kernel
  obtain ⟨_, _, _, _, hbegun, _, hfired, _⟩ :=
    connect_cancels plainRoute (.ok (.named "a" 80)) [] belated
  obtain ⟨_, _, _, hmarks, _⟩ := connect_cancels plainRoute (.ok (.named "a" 80)) [] severed
  have hsecond : Journal.Adds [] outcome.journal
      [.opened, .event (.wrote [5]), .fired Session.attemptToken] (.event (.wrote [1, 0])) := by
    unfold Journal.Adds
    decide +kernel
  obtain ⟨frame, start, hsend, hunfired, _⟩ := hbegun _ _ hsecond
  refine ⟨hcause, by decide +kernel, hfired hcause, ⟨frame, start, hsend, hunfired⟩, ?_⟩
  refine (hmarks [.opened, .event (.wrote [5]), .fired Session.attemptToken] .yielded rfl ?_ rfl).2
  unfold Journal.Adds
  decide +kernel

end Route

end ProxyTunnel
