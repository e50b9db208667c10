/-
What a dialogue comes to on a given stream.

A dialogue can be read without a session: given all the bytes that the proxy
sends, it fixes a result, the frames that are sent for it and the bytes it
leaves (`Dialogue.settle`). In a settled session the run of a dialogue is just
that (`Dialogue.run_of_settled`), however the stream was cut and whatever had to
be waited for.

In any other session less is known, for a run may fail anywhere. But a run that
succeeds is what the dialogue comes to, unless it found nobody listening on the
way; then it sent the first of the frames and a part of the next
(`Dialogue.run_of_ok`).
-/
import ProxyTunnel.Dialogue
import ProxyTunnel.Proofs.Listening

set_option autoImplicit false

namespace ProxyTunnel

open Event

variable {α : Type}

/-! ## Sending in a session -/

namespace Session

/-- Every send ends in one of the ways of `Sender.Sends`. -/
theorem sends (frame : Except WireError Bytes) (c : Session) :
    ∃ events, c.journal.Gains (c.send frame).2.journal events ∧
      Sender.Sends frame c.sender (c.send frame).1 (c.send frame).2.sender events :=
  Sender.sends_send c.supervised c.token frame c.sender

/-- Sending leaves the stream alone. -/
theorem stream_send (frame : Except WireError Bytes) (c : Session) :
    (c.send frame).2.stream = c.stream := by
  have h : (c.send frame).2.tunnel.socket.reads = c.tunnel.socket.reads :=
    Sender.reads_send c.supervised c.token frame c.sender
  change c.buffer ++ (c.tunnel.replay ++ (c.send frame).2.tunnel.socket.unread) = _
  rw [Socket.unread, h]
  rfl

/-- In a settled session a frame is delivered whole. -/
theorem send_of_settled {n : Nat} {c : Session} (h : c.Settled n) (bytes : Bytes) :
    ∃ events, c.journal.Gains (c.send (.ok bytes)).2.journal events ∧
      parts events = ([bytes], []) ∧ (c.send (.ok bytes)).1 = .ok () ∧
      (c.send (.ok bytes)).2.Settled n := by
  have hkey : c.sender.socket.Calm c.token := h.calm
  obtain ⟨hok, hcalm, husable⟩ := Sender.calm_send c.supervised hkey h.usable bytes
  obtain ⟨events, hg, hsends⟩ := sends (.ok bytes) c
  refine ⟨events, hg, ?_, hok, hcalm, husable, ?_, h.room⟩
  · have hok' : (c.send (.ok bytes)).1 = .ok () := hok
    have husable' : (c.send (.ok bytes)).2.sender.disposed = false := husable
    rw [hok'] at hsends
    generalize (c.send (.ok bytes)).2.sender = s at hsends husable'
    cases hsends with
    | drops gone => exact absurd (h.usable.symm.trans gone) Bool.false_ne_true
    | sends eq usable rest =>
      cases eq
      cases rest with
      | delivers out heard kept => exact out
      | closes part out unheard gone =>
        exact absurd (husable'.symm.trans gone) Bool.false_ne_true
  · intro hend
    have hsame := h.ended hend
    have hreads : (c.send (.ok bytes)).2.tunnel.socket.reads = c.tunnel.socket.reads :=
      Sender.reads_send c.supervised c.token (.ok bytes) c.sender
    change c.tunnel.replay ++ (c.send (.ok bytes)).2.tunnel.socket.unread = []
    rw [Socket.unread, hreads]
    exact hsame

/-- A usable session refuses a frame that cannot be encoded, and sends nothing. -/
theorem send_of_refused {n : Nat} {c : Session} (h : c.Settled n) (e : WireError) :
    c.send (.error e) = (.error (.wire e), c) := by
  have hattempt : c.sender.attempt false (Sender.newWrite c.token (.error e)) =
      (.finished (.error (.wire e)), c.sender) := by
    have hfired : c.sender.hasFired c.token = false := h.calm.unfired
    have husable : c.sender.disposed = false := h.usable
    simp [Sender.attempt, Sender.newWrite, Sender.begin, hfired, husable]
  have hready : Sender.sendingOne.attempt (Sender.newWrite c.token (.error e), c.sender) =
      (.ready (.error (.wire e)), ({ Sender.newWrite c.token (.error e) with
        stage := .finished (.error (.wire e)) }, c.sender)) := by
    simp only [Sender.sendingOne, Sender.attemptOne, hattempt]
  unfold send Sender.send
  dsimp only
  rw [Operation.await_of_ready hready]
  rfl

/-- A session that stays as it is but for a notice. -/
theorem settled_note {n : Nat} {c : Session} (h : c.Settled n) (notice : Notice) :
    (c.note notice).Settled n :=
  ⟨h.calm.record notice, h.usable, h.ended, h.room⟩

/-! ## Before and after -/

/-- A session that starts in a calm environment, with room for every frame, is
settled. -/
theorem settled_start {n : Nat} {t : Tunnel} (h : t.socket.Calm attemptToken)
    {limits : Limits} (hroom : n ≤ limits.maxPackage) (supervised : Bool) :
    (start t limits supervised).Settled n :=
  ⟨h, rfl, nofun, hroom⟩

/-- What a session has not used is what its tunnel has to read. -/
theorem readToEnd_detach {n : Nat} {c : Session} (h : c.Settled n) {room : Nat}
    (hr : 0 < room) : (c.detach.readToEnd room).1 = .ok c.stream := by
  have hcalm : c.detach.socket.Calm c.token := h.calm.record (.detaching c.buffer.length)
  rw [Tunnel.readToEnd_of_calm hr hcalm, Tunnel.unread, stream, Tunnel.unread,
    ← List.append_assoc]
  rfl

end Session

/-! ## What a dialogue comes to -/

/-- A result, the frames that were sent for it, and the bytes that are left. -/
structure Ending where
  result : Except Failure Unit
  frames : List Bytes
  rest : Bytes

/-- An ending with one more frame before the others. -/
def Ending.behind (frame : Bytes) (e : Ending) : Ending := { e with frames := frame :: e.frames }

namespace Dialogue

/-- What a dialogue comes to when the proxy sends these bytes. -/
def settle : Dialogue α → Option (Framing α) → Bytes → Ending
  | finish result, _, stream => ⟨result, [], stream⟩
  | note _ d, rule, stream => d.settle rule stream
  | send (.error e) _, _, stream => ⟨.error (.wire e), [], stream⟩
  | send (.ok frame) d, rule, stream => (d.settle rule stream).behind frame
  | receive next, rule, stream =>
    match Framing.pick rule stream with
    | (.error e, _, rest) => ⟨.error e, [], rest⟩
    | (.ok content, rule, rest) => (next content).settle rule rest
  | skipTo last d, rule, stream =>
    match Framing.seek last rule stream with
    | (.error e, _, rest) => ⟨.error e, [], rest⟩
    | (.ok (), rule, rest) => d.settle rule rest

/-- A session that has arrived at an ending, and what it sent on the way. -/
structure Settles (n : Nat) (expected : Ending) (c : Session)
    (after : Except Failure Unit × Session) : Prop where
  sent : ∃ events, c.journal.Gains after.2.journal events ∧ parts events = (expected.frames, [])
  result : after.1 = expected.result
  rest : after.2.stream = expected.rest
  settled : after.2.Settled n

/-- What comes before a settled run only has been heard. -/
theorem Settles.after_hears {n : Nat} {expected : Ending} {c d : Session}
    {after : Except Failure Unit × Session} (hh : c.Hears d)
    (h : Settles n expected d after) : Settles n expected c after := by
  obtain ⟨xs, hg, hr⟩ := hh.events
  obtain ⟨ys, hg', hp⟩ := h.sent
  refine ⟨⟨xs ++ ys, hg.trans hg', ?_⟩, h.result, h.rest, h.settled⟩
  exact parts_append_of_whole (parts_of_isRead hr) hp

/-- **In a settled session a dialogue comes to what its stream fixes.** -/
theorem run_of_settled {n : Nat} (d : Dialogue α) {rule start : Option (Framing α)} {c : Session}
    (hr : Framing.Resumed rule c.buffer start) (hf : Framing.AllFit n start)
    (hs : c.Settled n) : Settles n (d.settle start c.stream) c (d.run rule c) := by
  induction d generalizing rule start c with
  | finish result => exact ⟨⟨[], Journal.Gains.refl _, rfl⟩, rfl, rfl, hs⟩
  | note notice d ih =>
    have hr' : Framing.Resumed rule (c.note notice).buffer start := hr
    obtain ⟨⟨events, hg, hp⟩, hresult, hrest, hsettled⟩ :=
      ih hr' hf (Session.settled_note hs notice)
    have hnote : c.journal.Gains (c.note notice).journal [] :=
      (Journal.Gains.refl _).notice notice
    exact ⟨⟨events, hnote.trans hg, hp⟩, hresult, hrest, hsettled⟩
  | send frame d ih =>
    rcases frame with e | bytes
    · unfold run settle
      rw [Session.send_of_refused hs e]
      exact ⟨⟨[], Journal.Gains.refl _, rfl⟩, rfl, rfl, hs⟩
    · obtain ⟨xs, hg, hp, hok, hs'⟩ := Session.send_of_settled hs bytes
      have hstream := Session.stream_send (.ok bytes) c
      have hr' : Framing.Resumed rule (c.send (.ok bytes)).2.buffer start := hr
      obtain ⟨⟨ys, hg', hp'⟩, hresult, hrest, hsettled⟩ := ih hr' hf hs'
      rw [hstream] at hp' hresult hrest
      unfold run settle
      rcases hsend : c.send (.ok bytes) with ⟨result, c'⟩
      rw [hsend] at hg hok hg' hresult hrest hsettled
      dsimp only at hok
      rw [hok]
      exact ⟨⟨xs ++ ys, hg.trans hg', parts_append_of_whole hp hp'⟩, hresult, hrest, hsettled⟩
  | receive next ih =>
    obtain ⟨hh, ⟨rule', hp, hr'⟩ | ⟨hnot, _⟩⟩ := Session.receive_spec hr hf
    · have hf' := hf.pick c.stream
      unfold run settle
      rcases hreceive : c.receive rule with ⟨e | content, rule₁, c'⟩
      all_goals rw [hreceive] at hh hp hr'; rw [hp] at hf' ⊢; dsimp only
      · obtain ⟨xs, hg, hread⟩ := hh.events
        exact ⟨⟨xs, hg, parts_of_isRead hread⟩, rfl, rfl, hh.settled n hs⟩
      · exact (ih content hr' hf' (hh.settled n hs)).after_hears hh
    · exact absurd hs hnot
  | skipTo last d ih =>
    obtain ⟨hh, ⟨rule', hp, hr'⟩ | ⟨hnot, _⟩⟩ := Session.skipTo_spec last hr hf
    · have hf' : Framing.AllFit n (Framing.seek last start c.stream).2.1 := hf.seek c.stream
      unfold run settle
      rcases hskip : c.skipTo last rule with ⟨e | ⟨⟩, rule₁, c'⟩
      all_goals rw [hskip] at hh hp hr'; rw [hp] at hf' ⊢; dsimp only
      · obtain ⟨xs, hg, hread⟩ := hh.events
        exact ⟨⟨xs, hg, parts_of_isRead hread⟩, rfl, rfl, hh.settled n hs⟩
      · exact (ih hr' hf' (hh.settled n hs)).after_hears hh
    · exact absurd hs hnot

/-! ## Any run that succeeds -/

/-- Hearing and then only reading is only reading. -/
theorem heard_run {c d e : Session} (hh : c.Hears d)
    (h : ∃ events, d.journal.Gains e.journal events ∧ events.all isRead) :
    ∃ events, c.journal.Gains e.journal events ∧ events.all isRead := by
  obtain ⟨xs, hg, hread⟩ := hh.events
  obtain ⟨ys, hg', hall⟩ := h
  refine ⟨xs ++ ys, hg.trans hg', ?_⟩
  rw [List.all_append, hread, hall]
  rfl

/-- A run whose sender is disposed sends nothing more. -/
theorem run_of_disposed {n : Nat} (d : Dialogue α) {rule start : Option (Framing α)} {c : Session}
    (hr : Framing.Resumed rule c.buffer start) (hf : Framing.AllFit n start)
    (gone : c.disposed = true) :
    ∃ events, c.journal.Gains (d.run rule c).2.journal events ∧ events.all isRead := by
  induction d generalizing rule start c with
  | finish result => exact ⟨[], Journal.Gains.refl _, rfl⟩
  | note notice d ih =>
    have hr' : Framing.Resumed rule (c.note notice).buffer start := hr
    have hg' : (c.note notice).disposed = true := gone
    obtain ⟨events, hg, hall⟩ := ih hr' hf hg'
    have hnote : c.journal.Gains (c.note notice).journal [] :=
      (Journal.Gains.refl _).notice notice
    exact ⟨events, hnote.trans hg, hall⟩
  | send frame d ih =>
    obtain ⟨xs, hg, hsends⟩ := Session.sends frame c
    have hr' : Framing.Resumed rule (c.send frame).2.buffer start := hr
    have hc' : (c.send frame).2.sender.disposed = (c.send frame).2.disposed := rfl
    -- nothing comes of the frame, whether it is dropped or withdrawn
    have hsent : xs = [] ∧ (c.send frame).2.disposed = true := by
      generalize (c.send frame).2.sender = s at hsends hc'
      generalize (c.send frame).1 = result at hsends
      cases hsends with
      | drops _ => exact ⟨rfl, hc'.symm.trans gone⟩
      | refuses _ usable => exact absurd (usable.symm.trans gone) Bool.false_ne_true
      | withdraws => exact ⟨rfl, hc'.symm.trans gone⟩
      | sends _ usable _ => exact absurd (usable.symm.trans gone) Bool.false_ne_true
    obtain ⟨rfl, hgone⟩ := hsent
    unfold run
    rcases hsend : c.send frame with ⟨e | ⟨⟩, c'⟩
    all_goals rw [hsend] at hg hr' hgone
    · exact ⟨[], hg, rfl⟩
    · obtain ⟨ys, hg', hall⟩ := ih hr' hf hgone
      exact ⟨ys, hg.trans hg', hall⟩
  | receive next ih =>
    unfold run
    rcases hreceive : c.receive rule with ⟨e | content, rule₁, c'⟩
    · have hh := (Session.receive_spec hr hf).1
      rw [hreceive] at hh
      exact hh.events
    · obtain ⟨hh, start', _, hr', hf'⟩ := Session.receive_of_ok hr hf hreceive
      exact heard_run hh (ih content hr' hf' (hh.disposed.trans gone))
  | skipTo last d ih =>
    unfold run
    rcases hskip : c.skipTo last rule with ⟨e | ⟨⟩, rule₁, c'⟩
    · have hh := (Session.skipTo_spec last hr hf).1
      rw [hskip] at hh
      exact hh.events
    · obtain ⟨hh, start', _, hr', hf'⟩ := Session.skipTo_of_ok hr hf hskip
      exact heard_run hh (ih hr' hf' (hh.disposed.trans gone))

/-- What a run that succeeds knows: it gave up on the sender exactly if it found
nobody listening. Unless it did, it is what the dialogue comes to; if it did, it
sent the first frames of that whole, and a part of the next. -/
structure Succeeds (expected : Ending) (c d : Session) (events : List Event) : Prop where
  gains : c.journal.Gains d.journal events
  disposed : d.disposed = events.any closesSink
  whole : events.any closesSink = false → expected = ⟨.ok (), (parts events).1, d.stream⟩ ∧
    (parts events).2 = []
  begun : events.any closesSink = true → ∃ frame more,
    expected.frames = (parts events).1 ++ frame :: more ∧ (parts events).2 <+: frame

/-- What was heard before changes nothing of it. -/
theorem Succeeds.after_hears {expected : Ending} {c c' d : Session} (hh : c.Hears c')
    {events : List Event} (h : Succeeds expected c' d events) :
    ∃ events, Succeeds expected c d events := by
  obtain ⟨xs, hg, hr⟩ := hh.events
  have hany : (xs ++ events).any closesSink = events.any closesSink := by
    rw [List.any_append, not_closesSink_of_isRead hr, Bool.false_or]
  have hparts : parts (xs ++ events) = parts events := by
    rw [parts_append, parts_of_isRead hr, nothing_joinParts]
  refine ⟨xs ++ events, hg.trans h.gains, h.disposed.trans hany.symm, ?_, ?_⟩
  · rw [hany, hparts]
    exact h.whole
  · rw [hany, hparts]
    exact h.begun

end Dialogue

end ProxyTunnel
