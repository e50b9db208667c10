/-
How a logical write can end, whatever its socket does.

One attempt to go on with a frame has four ends (`Sender.Transmits`): it waits
with some bytes still to be sent, it delivers the frame and its flush, it finds
that nobody listens, or it breaks with another fault. A whole write has these
ends and three more (`Sender.Sends`): a disposed sender drops the frame, a frame
that cannot be encoded is refused, and a write is cancelled.

Each end says which events the journal gained. So whatever is proved about
writes is proved from these cases, and nothing below opens a socket again.
-/
import ProxyTunnel.Proofs.Parts
import ProxyTunnel.Sender

set_option autoImplicit false

namespace ProxyTunnel

open Event

/-! ## Attempts of a socket -/

/-- An attempt of the environment is no event by itself. -/
theorem Script.gains_poll {α : Type} (rest : α) (script : Script α) (journal : Journal) :
    journal.Gains (poll rest script journal).2.2 [] := by
  induction script generalizing journal with
  | nil => exact Journal.Gains.refl journal
  | cons step script ih =>
    rcases step with value | e | _ | token
    · exact Journal.Gains.refl journal
    · exact Journal.Gains.refl journal
    · exact ⟨[.yielded], rfl, rfl⟩
    · have h : journal.Gains (journal ++ [.fired token]) [] := ⟨[.fired token], rfl, rfl⟩
      exact h.trans (ih _)

namespace Socket

/-- Whether an attempt ended because nobody listens any more. -/
def foundClosed {α : Type} : Poll (Except SocketError α) → Bool
  | .ready (.error e) => e.fault.isClosed
  | _ => false

/-- The event of a write attempt: what it took, or why it failed. -/
theorem gains_pollWrite (bytes : Bytes) (s : Socket) :
    (∃ s', s.pollWrite bytes = (.pending, s') ∧ s.journal.Gains s'.journal []) ∨
    (∃ e s', s.pollWrite bytes = (.ready (.error e), s') ∧
      s.journal.Gains s'.journal [.writeFailed e.fault]) ∨
    (∃ count s', s.pollWrite bytes = (.ready (.ok count), s') ∧ count ≤ bytes.length ∧
      s.journal.Gains s'.journal [.wrote (bytes.take count)]) := by
  have h := Script.gains_poll none s.writes s.journal
  unfold pollWrite
  rcases hp : Script.poll none s.writes s.journal with ⟨(e | limit) | _, writes, journal⟩
  all_goals rw [hp] at h
  · exact .inr (.inl ⟨e, _, rfl, h.event _⟩)
  · refine .inr (.inr ⟨_, _, rfl, ?_, ?_⟩)
    · rw [List.length_take]
      exact Nat.min_le_right _ _
    · rw [List.length_take, ← List.take_take, List.take_length]
      exact h.event _
  · exact .inl ⟨_, rfl, h⟩

/-- The event of a flush attempt. -/
theorem gains_pollFlush (s : Socket) :
    (∃ s', s.pollFlush = (.pending, s') ∧ s.journal.Gains s'.journal []) ∨
    (∃ e s', s.pollFlush = (.ready (.error e), s') ∧
      s.journal.Gains s'.journal [.flushFailed e.fault]) ∨
    (∃ s', s.pollFlush = (.ready (.ok ()), s') ∧ s.journal.Gains s'.journal [.flushed]) := by
  have h := Script.gains_poll () s.flushes s.journal
  unfold pollFlush
  rcases hp : Script.poll () s.flushes s.journal with ⟨(e | _) | _, flushes, journal⟩
  all_goals rw [hp] at h
  · exact .inr (.inl ⟨e, _, rfl, h.event _⟩)
  · exact .inr (.inr ⟨_, rfl, h.event _⟩)
  · exact .inl ⟨_, rfl, h⟩

/-- What an attempt to write all bytes leaves open: the bytes sent are the first
ones, none are left if it succeeded, and the journal tells whether it found
nobody listening. -/
theorem gains_pollWriteAll (bytes : Bytes) (s : Socket) :
    ∃ sent events, s.journal.Gains (s.pollWriteAll bytes).2.2.journal events ∧
      parts events = ([], sent) ∧ bytes = sent ++ (s.pollWriteAll bytes).2.1 ∧
      events.any closesSink = foundClosed (s.pollWriteAll bytes).1 ∧
      ((s.pollWriteAll bytes).1 = .ready (.ok ()) → (s.pollWriteAll bytes).2.1 = []) := by
  -- along the recursion: every write attempt adds its event in front
  fun_induction pollWriteAll bytes s with
  | case1 => exact ⟨[], [], Journal.Gains.refl _, rfl, rfl, rfl, fun _ => rfl⟩
  | case2 bytes s _ s' h =>
    obtain ⟨_, hw, hg⟩ | ⟨_, _, hw, _⟩ | ⟨_, _, hw, _⟩ := gains_pollWrite bytes s
    all_goals rw [h] at hw; cases hw
    exact ⟨[], [], hg, rfl, rfl, rfl, by rintro ⟨⟩⟩
  | case3 bytes s _ e s' h hi ih =>
    obtain ⟨_, hw, _⟩ | ⟨_, _, hw, hg⟩ | ⟨_, _, hw, _⟩ := gains_pollWrite bytes s
    all_goals rw [h] at hw; cases hw
    obtain ⟨sent, events, hg', hp, hb, hc, hd⟩ := ih
    -- an interruption leaves its mark in the journal and changes nothing else
    refine ⟨sent, _, hg.trans hg', ?_, hb, ?_, hd⟩
    · rw [parts_append, hp]
      rfl
    · rw [List.any_append, hc, List.any_cons, closesSink, hi]
      rfl
  | case4 bytes s _ e s' h _ =>
    obtain ⟨_, hw, _⟩ | ⟨_, _, hw, hg⟩ | ⟨_, _, hw, _⟩ := gains_pollWrite bytes s
    all_goals rw [h] at hw; cases hw
    exact ⟨[], _, hg, rfl, rfl, by simp [closesSink, foundClosed], by rintro ⟨⟩⟩
  | case5 bytes s _ s' h =>
    obtain ⟨_, hw, _⟩ | ⟨_, _, hw, _⟩ | ⟨_, _, hw, _, hg⟩ := gains_pollWrite bytes s
    all_goals rw [h] at hw; cases hw
    exact ⟨[], _, hg, rfl, rfl, rfl, by rintro ⟨⟩⟩
  | case6 bytes s hb count s' h hn ih =>
    obtain ⟨_, hw, _⟩ | ⟨_, _, hw, _⟩ | ⟨_, _, hw, hle, hg⟩ := gains_pollWrite bytes s
    all_goals rw [h] at hw; cases hw
    have hne : (bytes.take count).isEmpty = false := by
      rw [List.isEmpty_eq_false_iff, ne_eq, List.take_eq_nil_iff]
      rintro (hz | hz)
      · exact hn hz
      · exact hb hz
    obtain ⟨sent, events, hg', hp, hb, hc, hd⟩ := ih
    refine ⟨bytes.take count ++ sent, _, hg.trans hg', ?_, ?_, ?_, hd⟩
    · rw [parts_append, hp]
      rfl
    · rw [List.append_assoc, ← hb, List.take_append_drop]
    · rw [List.any_append, hc, List.any_cons, closesSink, hne]
      rfl

/-- As `gains_pollWriteAll`, with the flush behind it: success is one whole
part. -/
theorem gains_pollTransmit (bytes : Bytes) (s : Socket) :
    ∃ sent events, s.journal.Gains (s.pollTransmit bytes).2.2.journal events ∧
      bytes = sent ++ (s.pollTransmit bytes).2.1 ∧
      events.any closesSink = foundClosed (s.pollTransmit bytes).1 ∧
      ((s.pollTransmit bytes).1 = .ready (.ok ()) ∧ parts events = ([bytes], []) ∨
        (s.pollTransmit bytes).1 ≠ .ready (.ok ()) ∧ parts events = ([], sent)) := by
  obtain ⟨sent, events, hg, hp, hb, hc, hd⟩ := gains_pollWriteAll bytes s
  unfold pollTransmit
  rcases hw : s.pollWriteAll bytes with ⟨(e | ⟨⟩) | _, rest, s'⟩
  all_goals rw [hw] at hg hb hc hd; dsimp only at *
  · exact ⟨sent, events, hg, hb, hc, .inr ⟨by rintro ⟨⟩, hp⟩⟩
  · -- all bytes are out, and the flush decides whether they are a part
    have hr : rest = [] := hd rfl
    rw [hr, List.append_nil] at hb
    rw [hb, hr]
    obtain ⟨s₂, hf, hg'⟩ | ⟨e, s₂, hf, hg'⟩ | ⟨s₂, hf, hg'⟩ := gains_pollFlush s'
    all_goals rw [hf]
    · refine ⟨sent, events, ?_, by simp, hc, .inr ⟨by rintro ⟨⟩, hp⟩⟩
      simpa using hg.trans hg'
    · refine ⟨sent, _, hg.trans hg', by simp, ?_, .inr ⟨by rintro ⟨⟩, ?_⟩⟩
      · rw [List.any_append, hc, List.any_cons, closesSink]
        simp [foundClosed]
      · rw [parts_append, hp]
        simp [parts, ship]
    · refine ⟨sent, _, hg.trans hg', by simp, ?_, .inl ⟨rfl, ?_⟩⟩
      · rw [List.any_append, hc]
        rfl
      · rw [parts_append, hp]
        simp [parts, ship, joinParts]
  · exact ⟨sent, events, hg, hb, hc, .inr ⟨by rintro ⟨⟩, hp⟩⟩

end Socket

namespace Sender

/-! ## One attempt to go on with a frame -/

/-- The ends of one attempt to send the rest of a frame and flush it. -/
inductive Transmits (rest : Bytes) (s : Sender) : Stage → Sender → List Event → Prop
  /-- Nothing more is ready, and some bytes are left. -/
  | waits {sent left : Bytes} {s' : Sender} {events : List Event} (split : rest = sent ++ left)
      (out : parts events = ([], sent)) (heard : events.any closesSink = false)
      (kept : s'.disposed = s.disposed) : Transmits rest s (.sending left) s' events
  /-- All is out and flushed. -/
  | delivers {s' : Sender} {events : List Event} (out : parts events = ([rest], []))
      (heard : events.any closesSink = false) (kept : s'.disposed = s.disposed) :
      Transmits rest s (.finished (.ok ())) s' events
  /-- Nobody listens: the write counts as done, and it was the last. -/
  | closes {sent : Bytes} {s' : Sender} {events : List Event} (part : sent <+: rest)
      (out : parts events = ([], sent)) (unheard : events.any closesSink = true)
      (gone : s'.disposed = true) : Transmits rest s (.finished (.ok ())) s' events
  /-- Another fault ends the write, and only the write. -/
  | breaks {sent : Bytes} {e : SocketError} {s' : Sender} {events : List Event}
      (part : sent <+: rest) (fault : e.fault.isClosed = false) (out : parts events = ([], sent))
      (heard : events.any closesSink = false) (kept : s'.disposed = s.disposed) :
      Transmits rest s (.finished (.error (.socket e))) s' events

theorem transmits_transmit (rest : Bytes) (s : Sender) :
    ∃ events, s.socket.journal.Gains (s.transmit rest).2.socket.journal events ∧
      Transmits rest s (s.transmit rest).1 (s.transmit rest).2 events := by
  obtain ⟨sent, events, hg, hb, hc, hp⟩ := Socket.gains_pollTransmit rest s.socket
  unfold transmit
  rcases hw : s.socket.pollTransmit rest with ⟨(e | ⟨⟩) | _, left, socket⟩
  all_goals rw [hw] at hg hb hc hp; dsimp only at *
  · have hout : parts events = ([], sent) := by
      rcases hp with ⟨h, _⟩ | ⟨_, h⟩
      · cases h
      · exact h
    have hpart : sent <+: rest := ⟨left, hb.symm⟩
    -- a fault that means nobody listens is not reported to the caller
    by_cases hclosed : e.fault.isClosed
    · rw [if_pos hclosed]
      exact ⟨events, hg.notice _, .closes hpart hout (hc.trans hclosed) rfl⟩
    · rw [Bool.not_eq_true] at hclosed
      rw [if_neg (by rw [hclosed]; exact Bool.false_ne_true)]
      exact ⟨events, hg, .breaks hpart hclosed hout (hc.trans hclosed) rfl⟩
  · rcases hp with ⟨_, h⟩ | ⟨h, _⟩
    · exact ⟨events, hg, .delivers h hc rfl⟩
    · exact absurd rfl h
  · rcases hp with ⟨h, _⟩ | ⟨_, h⟩
    · cases h
    · exact ⟨events, hg, .waits hb h hc rfl⟩

/-! ## One attempt at a write -/

/-- What one attempt does for a write, by how far the write has come. -/
inductive Attempts (busy : Bool) (w : Write) (s : Sender) : Stage → Sender → List Event → Prop
  | idles {result : Except Failure Unit} (stage : w.stage = .finished result) :
      Attempts busy w s (.finished result) s []
  /-- The token has fired before the turn of the write. -/
  | withdraws (stage : w.stage = .waiting) (fired : s.hasFired w.token = true) :
      Attempts busy w s (.finished (.error .cancelled)) s []
  | queues (stage : w.stage = .waiting) (turn : busy = true) : Attempts busy w s .waiting s []
  | drops (stage : w.stage = .waiting) (unfired : s.hasFired w.token = false)
      (turn : busy = false) (gone : s.disposed = true) :
      Attempts busy w s (.finished (.ok ())) s []
  | refuses {e : WireError} (stage : w.stage = .waiting) (unfired : s.hasFired w.token = false)
      (turn : busy = false) (frame : w.frame = .error e) (usable : s.disposed = false) :
      Attempts busy w s (.finished (.error (.wire e))) s []
  | begins {bytes : Bytes} {stage' : Stage} {s' : Sender} {events : List Event}
      (stage : w.stage = .waiting) (unfired : s.hasFired w.token = false) (turn : busy = false)
      (frame : w.frame = .ok bytes) (usable : s.disposed = false)
      (step : Transmits bytes s stage' s' events) : Attempts busy w s stage' s' events
  /-- The token has fired while part of the frame may be out. -/
  | tears {rest : Bytes} (stage : w.stage = .sending rest) (fired : s.hasFired w.token = true) :
      Attempts busy w s (.finished (.error .cancelled)) { s with disposed := true } []
  | goesOn {rest : Bytes} {stage' : Stage} {s' : Sender} {events : List Event}
      (stage : w.stage = .sending rest) (step : Transmits rest s stage' s' events) :
      Attempts busy w s stage' s' events

theorem attempts_attempt (busy : Bool) (w : Write) (s : Sender) :
    ∃ events, s.socket.journal.Gains (s.attempt busy w).2.socket.journal events ∧
      Attempts busy w s (s.attempt busy w).1 (s.attempt busy w).2 events := by
  have hsame : s.socket.journal.Gains s.socket.journal [] := Journal.Gains.refl _
  unfold attempt
  rcases hstage : w.stage with _ | rest | result
  all_goals dsimp only
  · by_cases hfired : s.hasFired w.token
    · rw [if_pos hfired]
      exact ⟨[], hsame, .withdraws hstage hfired⟩
    rw [if_neg hfired]
    rw [Bool.not_eq_true] at hfired
    by_cases hbusy : busy
    · rw [if_pos hbusy]
      exact ⟨[], hsame, .queues hstage hbusy⟩
    rw [if_neg hbusy]
    rw [Bool.not_eq_true] at hbusy
    unfold begin
    by_cases hgone : s.disposed
    · rw [if_pos hgone]
      exact ⟨[], hsame, .drops hstage hfired hbusy hgone⟩
    rw [if_neg hgone]
    rw [Bool.not_eq_true] at hgone
    rcases hframe : w.frame with e | bytes
    all_goals dsimp only
    · exact ⟨[], hsame, .refuses hstage hfired hbusy hframe hgone⟩
    · obtain ⟨events, hg, ht⟩ := transmits_transmit bytes s
      exact ⟨events, hg, .begins hstage hfired hbusy hframe hgone ht⟩
  · by_cases hfired : s.hasFired w.token
    · rw [if_pos hfired]
      exact ⟨[], hsame, .tears hstage hfired⟩
    · rw [if_neg hfired]
      obtain ⟨events, hg, ht⟩ := transmits_transmit rest s
      exact ⟨events, hg, .goesOn hstage ht⟩
  · exact ⟨[], hsame, .idles hstage⟩

/-! ## A whole write on its own -/

/-- The ends of a write that has its turn and the rest of a frame to send. -/
inductive SendsOn (rest : Bytes) (s : Sender) : Except Failure Unit → Sender → List Event → Prop
  | delivers {s' : Sender} {events : List Event} (out : parts events = ([rest], []))
      (heard : events.any closesSink = false) (kept : s'.disposed = s.disposed) :
      SendsOn rest s (.ok ()) s' events
  | closes {sent : Bytes} {s' : Sender} {events : List Event} (part : sent <+: rest)
      (out : parts events = ([], sent)) (unheard : events.any closesSink = true)
      (gone : s'.disposed = true) : SendsOn rest s (.ok ()) s' events
  | fails {sent : Bytes} {cause : Failure} {s' : Sender} {events : List Event}
      (part : sent <+: rest) (out : parts events = ([], sent))
      (heard : events.any closesSink = false) : SendsOn rest s (.error cause) s' events

/-- The ends of a write. -/
inductive Sends (frame : Except WireError Bytes) (s : Sender) :
    Except Failure Unit → Sender → List Event → Prop
  | drops (gone : s.disposed = true) : Sends frame s (.ok ()) s []
  | refuses {e : WireError} (eq : frame = .error e) (usable : s.disposed = false) :
      Sends frame s (.error (.wire e)) s []
  | withdraws : Sends frame s (.error .cancelled) s []
  | sends {bytes : Bytes} {result : Except Failure Unit} {s' : Sender} {events : List Event}
      (eq : frame = .ok bytes) (usable : s.disposed = false)
      (rest : SendsOn bytes s result s' events) : Sends frame s result s' events

/-- An attempt that ended the write ended it in one of these ways. -/
theorem Transmits.sendsOn {rest : Bytes} {s s' : Sender} {result : Except Failure Unit}
    {events : List Event} (h : Transmits rest s (.finished result) s' events) :
    SendsOn rest s result s' events := by
  cases h with
  | delivers out heard kept => exact .delivers out heard kept
  | closes part out unheard gone => exact .closes part out unheard gone
  | breaks part fault out heard kept => exact .fails part out heard

/-- A write that waited goes on with the bytes that are left. -/
theorem SendsOn.after {rest left : Bytes} {s s₁ s' : Sender} {result : Except Failure Unit}
    {xs ys : List Event} (h : Transmits rest s (.sending left) s₁ xs)
    (h' : SendsOn left s₁ result s' ys) : SendsOn rest s result s' (xs ++ ys) := by
  cases h with
  | waits split out heard kept =>
    rename_i sent
    have hout : ∀ p, parts ys = p → parts (xs ++ ys) = joinParts ([], sent) p := by
      rintro p rfl
      rw [parts_append, out]
    have hheard : (xs ++ ys).any closesSink = ys.any closesSink := by
      rw [List.any_append, heard, Bool.false_or]
    rw [split]
    -- the bytes of the first attempt go before those of the later ones
    cases h' with
    | delivers out' heard' kept' =>
      exact .delivers (hout _ out') (hheard.trans heard') (kept'.trans kept)
    | closes part out' unheard gone =>
      exact .closes ((List.prefix_append_right_inj sent).2 part) (hout _ out')
        (hheard.trans unheard) gone
    | fails part out' heard' =>
      exact .fails ((List.prefix_append_right_inj sent).2 part) (hout _ out')
        (hheard.trans heard')

/-- What is said of a write at any stage from which it can still be awaited. -/
def Reaches (start : Write × Sender) (result : Except Failure Unit) (s' : Sender) : Prop :=
  match start.1.stage with
  | .waiting => ∃ events, start.2.socket.journal.Gains s'.socket.journal events ∧
      Sends start.1.frame start.2 result s' events
  | .sending rest => ∃ events, start.2.socket.journal.Gains s'.socket.journal events ∧
      SendsOn rest start.2 result s' events
  | .finished _ => True

/-- One attempt, with nobody else's turn in the way, either ends the write as
`Reaches` says or leaves one to which it carries back. -/
theorem reaches_attempt (w : Write) (s : Sender) :
    (∀ result, (s.attempt false w).1 = .finished result →
      Reaches (w, s) result (s.attempt false w).2) ∧
    ((s.attempt false w).1.isFinished = false → ∀ result s',
      Reaches ({ w with stage := (s.attempt false w).1 }, (s.attempt false w).2) result s' →
      Reaches (w, s) result s') := by
  obtain ⟨events, hg, ha⟩ := attempts_attempt false w s
  generalize s.attempt false w = after at hg ha ⊢
  rcases after with ⟨stage, s₁⟩
  dsimp only at hg ha ⊢
  refine ⟨?_, ?_⟩
  · rintro result rfl
    unfold Reaches
    cases ha with
    | idles hs => dsimp only; rw [hs]; trivial
    | withdraws hs _ => dsimp only; rw [hs]; exact ⟨[], hg, .withdraws⟩
    | drops hs _ _ gone => dsimp only; rw [hs]; exact ⟨[], hg, .drops gone⟩
    | refuses hs _ _ frame usable => dsimp only; rw [hs]; exact ⟨[], hg, .refuses frame usable⟩
    | begins hs _ _ frame usable step =>
      dsimp only
      rw [hs]
      exact ⟨events, hg, .sends frame usable step.sendsOn⟩
    | tears hs _ =>
      dsimp only
      rw [hs]
      exact ⟨[], hg, .fails (List.nil_prefix) rfl rfl⟩
    | goesOn hs step => dsimp only; rw [hs]; exact ⟨events, hg, step.sendsOn⟩
  · intro hopen result s' hr
    -- only a write that is sending can be unfinished: nobody keeps it waiting
    cases ha with
    | idles => cases hopen
    | withdraws => cases hopen
    | queues _ turn => cases turn
    | drops => cases hopen
    | refuses => cases hopen
    | tears => cases hopen
    | begins hs _ _ frame usable step =>
      rcases stage with _ | left | result'
      · cases step
      · obtain ⟨ys, hg', hon⟩ := hr
        unfold Reaches
        dsimp only
        rw [hs]
        exact ⟨events ++ ys, hg.trans hg', .sends frame usable (hon.after step)⟩
      · cases hopen
    | goesOn hs step =>
      rcases stage with _ | left | result'
      · cases step
      · obtain ⟨ys, hg', hon⟩ := hr
        unfold Reaches
        dsimp only
        rw [hs]
        exact ⟨events ++ ys, hg.trans hg', hon.after step⟩
      · cases hopen

/-- A write that is given up where it stands is cancelled. -/
theorem reaches_stopped (w : Write) (s : Sender)
    (h : (s.attempt false w).1.isFinished = false) :
    Reaches (w, s) (.error .cancelled) (s.attempt false w).2 := by
  refine (reaches_attempt w s).2 h _ _ ?_
  unfold Reaches
  dsimp only
  rcases (s.attempt false w).1 with _ | left | result
  · exact ⟨[], Journal.Gains.refl _, .withdraws⟩
  · exact ⟨[], Journal.Gains.refl _, .fails List.nil_prefix rfl rfl⟩
  · trivial

/-- **Every write ends in one of the ways of `Sends`**, supervised or not, and
its journal gains the events that go with it. -/
theorem sends_send (supervised : Bool) (token : Nat) (frame : Except WireError Bytes) (s : Sender) :
    ∃ events, s.socket.journal.Gains (s.send supervised token frame).2.socket.journal events ∧
      Sends frame s (s.send supervised token frame).1 (s.send supervised token frame).2 events := by
  have key := sendingOne.await_rec
    (fun state => if supervised && state.2.hasFired token then some (.error .cancelled) else none)
    (motive := fun start after => Reaches start after.1 after.2.2) ?_ ?_ ?_ (newWrite token frame, s)
  · exact key
  · -- the write ends with this attempt
    rintro ⟨w, s⟩ result after h
    simp only [sendingOne, attemptOne] at h
    rcases hs : (s.attempt false w).1 with _ | left | result'
    all_goals rw [hs] at h; cases h
    exact (reaches_attempt w s).1 _ hs
  · -- the supervisor gives it up
    rintro ⟨w, s⟩ result after h hstop
    simp only [sendingOne, attemptOne] at h
    split at hstop
    · cases hstop
      rcases hs : (s.attempt false w).1 with _ | left | result'
      all_goals rw [hs] at h; cases h
      all_goals exact reaches_stopped w s (by rw [hs]; rfl)
    · cases hstop
  · -- it goes on after a wait
    rintro ⟨w, s⟩ after ⟨result, after'⟩ h _ ih
    simp only [sendingOne, attemptOne] at h
    rcases hs : (s.attempt false w).1 with _ | left | result'
    all_goals rw [hs] at h; cases h
    all_goals
      refine (reaches_attempt w s).2 (by rw [hs]; rfl) _ _ ?_
      rw [hs]
      exact ih

end Sender

end ProxyTunnel
