/-
A torn frame on the wire, and what may still follow it.

A frame is torn if the socket took part of it and the write is over. A peer
that reads on takes whatever follows for the rest of the frame. A sender that
was disposed is silent for good, so nothing follows a frame that was torn by a
cancellation or by an end that no longer listens. A write that broke with any
other fault leaves the sender usable, and the next write is sent right behind
its torn frame: that is the one exception, and `torn_write_is_last` states the
rule with it.
-/
import Mathlib.Control.Monad.Basic
import ProxyTunnel.Proofs.Turns

set_option autoImplicit false

namespace ProxyTunnel

open Event

/-! ## Disposing writes nothing -/

namespace Socket

theorem written_pollShutDown (s : Socket) :
    s.pollShutDown.2.journal.written = s.journal.written := by
  have h := (Script.gains_poll () s.shutDowns s.journal).written_eq
  unfold pollShutDown
  rcases hp : Script.poll () s.shutDowns s.journal with ⟨(e | _) | _, shutDowns, journal⟩
  all_goals rw [hp] at h; dsimp only at h ⊢
  · rw [Journal.written_append, h]
    simp [Journal.written, Journal.events, Journal.event?, Journal.writtenBy]
  · rw [Journal.written_append, h]
    simp [Journal.written, Journal.events, Journal.event?, Journal.writtenBy]
  · rw [h]
    simp

/-- A socket that takes whatever it is given takes a frame at once. -/
theorem pollTransmit_of_open {s : Socket} (hw : s.writes = []) (hf : s.flushes = [])
    (bytes : Bytes) : (s.pollTransmit bytes).1 = .ready (.ok ()) := by
  -- a script that has run out takes all bytes at once
  have hall : ∃ journal, s.pollWriteAll bytes =
      (.ready (.ok ()), [], { s with journal := journal }) := by
    by_cases hnil : bytes = []
    · refine ⟨s.journal, ?_⟩
      rw [hnil, pollWriteAll, dif_pos rfl]
    · have hone : s.pollWrite bytes = (.ready (.ok bytes.length),
          { s with journal := s.journal ++ [.event (.wrote bytes)] }) := by
        simp [pollWrite, Script.poll, hw]
      refine ⟨s.journal ++ [.event (.wrote bytes)], ?_⟩
      rw [pollWriteAll, dif_neg hnil]
      split
      · rename_i h
        rw [hone] at h
        cases h
      · rename_i h
        rw [hone] at h
        cases h
      · rename_i h
        rw [hone] at h
        cases h
        rw [dif_neg (fun h => hnil (List.length_eq_zero_iff.1 h)), List.drop_length,
          pollWriteAll, dif_pos rfl]
  obtain ⟨journal, hall⟩ := hall
  rw [pollTransmit, hall]
  simp [pollFlush, Script.poll, hf]

end Socket

theorem Sender.written_dispose (s : Sender) :
    s.dispose.socket.journal.written = s.socket.journal.written := by
  have h := Socket.shuttingDown.await_keeps (fun _ => none)
    (fun a b => b.journal.written = a.journal.written) (fun _ _ _ h h' => h'.trans h)
    Socket.written_pollShutDown s.socket
  change (Socket.shuttingDown.run s.socket).2.journal.written = _ at h
  unfold dispose
  split
  · rfl
  · split <;> rename_i heq <;> rw [heq] at h
    · exact h
    · rw [← h]
      simp [Socket.record, Journal.written, Journal.events, Journal.event?]

namespace Desk

/-! ## The wire holds the writes in turn -/

theorem written_fire (d : Desk) (token : Nat) : (d.step (.fire token)).written = d.written := by
  simp [step, written, Socket.record, Journal.written, Journal.events, Journal.event?]

/-- What one step adds to the wire is what it adds to the log. -/
theorem written_step (d : Desk) (m : Move) :
    ∃ added, (d.step m).log = d.log ++ added ∧
      (d.step m).written = d.written ++ (added.flatMap (·.2)).flatMap Journal.writtenBy := by
  -- only an attempt writes
  rcases m with ⟨token, frame⟩ | i | token | _
  · exact ⟨[], (List.append_nil _).symm, (List.append_nil _).symm⟩
  · rcases hw : d.writes[i]? with _ | w
    · rw [step_poll_of_none hw]
      exact ⟨[], (List.append_nil _).symm, (List.append_nil _).symm⟩
    · rw [step_poll hw]
      obtain ⟨events, heq, hg, _⟩ := attempt_eq_put d i w
      refine ⟨[(i, events)], by rw [heq]; rfl, ?_⟩
      rw [List.flatMap_singleton]
      exact hg.written_eq
  · exact ⟨[], (List.append_nil _).symm, (written_fire d token).trans (List.append_nil _).symm⟩
  · refine ⟨[], ?_, ?_⟩
    all_goals
      unfold step
      dsimp only
      split
    · exact (List.append_nil _).symm
    · exact (List.append_nil _).symm
    · exact (List.append_nil _).symm
    · exact (Sender.written_dispose _).trans (List.append_nil _).symm

theorem written_run_log (d : Desk) (moves : List Move) :
    ∃ added, (d.run moves).log = d.log ++ added ∧
      (d.run moves).written = d.written ++ (added.flatMap (·.2)).flatMap Journal.writtenBy := by
  induction moves generalizing d with
  | nil => exact ⟨[], (List.append_nil _).symm, (List.append_nil _).symm⟩
  | cons m moves ih =>
    obtain ⟨xs, hlog, hw⟩ := written_step d m
    obtain ⟨ys, hlog', hw'⟩ := ih (d.step m)
    refine ⟨xs ++ ys, ?_, ?_⟩
    · change ((d.step m).run moves).log = _
      rw [hlog', hlog, List.append_assoc]
    · change ((d.step m).run moves).written = _
      rw [hw', hw, List.flatMap_append, List.flatMap_append, List.append_assoc]

/-- The socket took, one after the other, what it took of each write in turn. -/
theorem written_run (s : Sender) (moves : List Move) :
    ((of s).run moves).written = s.socket.journal.written ++
      ((of s).run moves).turns.flatMap ((of s).run moves).sent := by
  obtain ⟨added, hlog, hw⟩ := written_run_log (of s) moves
  have hturn := ((inv_of s).run moves).inTurn
  change _ = [] ++ added at hlog
  rw [hlog, List.nil_append] at hturn
  rw [hw, hturn, List.flatMap_assoc]
  rfl

/-! ## A disposed sender is silent for good -/

theorem Inv.silent_step {d : Desk} (h : d.Inv) (gone : d.sender.disposed = true) (m : Move) :
    (d.step m).written = d.written ∧ (d.step m).sender.disposed = true := by
  rcases m with ⟨token, frame⟩ | i | token | _
  · exact ⟨rfl, gone⟩
  · rcases hw : d.writes[i]? with _ | w
    · rw [step_poll_of_none hw]
      exact ⟨rfl, gone⟩
    rw [step_poll hw]
    obtain ⟨events, heq, hg, ha⟩ := attempt_eq_put d i w
    -- nobody can be in the middle of a frame
    have hquiet : ∀ rest, w.stage ≠ .sending rest := by
      intro rest hs
      have hacc := h.account i w hw
      unfold Account at hacc
      rw [hs] at hacc
      exact Bool.false_ne_true (hacc.1.symm.trans gone)
    have hwritten := hg.written_eq
    rw [heq]
    change (d.sender.attempt (d.busy i) w).2.socket.journal.written = _ ∧
      (d.sender.attempt (d.busy i) w).2.disposed = true
    generalize d.sender.attempt (d.busy i) w = after at ha hwritten ⊢
    rcases after with ⟨stage, sender⟩
    dsimp only at ha hwritten ⊢
    cases ha with
    | idles | withdraws | queues | drops => exact ⟨rfl, gone⟩
    | refuses _ _ _ _ usable => exact absurd (usable.symm.trans gone) Bool.false_ne_true
    | begins _ _ _ _ usable _ => exact absurd (usable.symm.trans gone) Bool.false_ne_true
    | tears hs _ => exact absurd hs (hquiet _)
    | goesOn hs _ => exact absurd hs (hquiet _)
  · exact ⟨written_fire d token, gone⟩
  · unfold Desk.step
    dsimp only
    split
    · exact ⟨rfl, gone⟩
    · exact ⟨Sender.written_dispose _, Sender.disposed_dispose _⟩

theorem Inv.silent_run {d : Desk} (h : d.Inv) (gone : d.sender.disposed = true)
    (moves : List Move) : (d.run moves).written = d.written := by
  induction moves generalizing d with
  | nil => rfl
  | cons m moves ih =>
    obtain ⟨hw, hgone⟩ := h.silent_step gone m
    exact (ih (h.step m) hgone).trans hw

/-! ## Whole, torn, broken -/

/-- The socket took the whole frame of a write. -/
def Whole (d : Desk) (i : Nat) : Prop :=
  ∃ w, d.writes[i]? = some w ∧ w.frame = .ok (d.sent i)

/-- The socket took the first bytes of a frame, and not all. -/
def Torn (d : Desk) (i : Nat) : Prop :=
  ∃ w bytes, d.writes[i]? = some w ∧ w.frame = .ok bytes ∧
    d.sent i ≠ [] ∧ d.sent i <+: bytes ∧ d.sent i ≠ bytes

/-- A write is over, with this result. -/
def Returned (d : Desk) (i : Nat) (result : Except Failure Unit) : Prop :=
  ∃ w, d.writes[i]? = some w ∧ w.stage = .finished result

/-- Of every frame the socket took nothing, all, or the first bytes. -/
theorem Inv.sent_cases {d : Desk} (h : d.Inv) (i : Nat) :
    d.sent i = [] ∨ d.Whole i ∨ d.Torn i := by
  by_cases hlt : i < d.writes.length
  · obtain ⟨w, hw⟩ : ∃ w, d.writes[i]? = some w := ⟨_, List.getElem?_eq_getElem hlt⟩
    -- the stage tells which bytes are out, and they begin the frame
    have hpart : ∀ bytes, w.frame = .ok bytes → d.sent i <+: bytes →
        d.sent i = [] ∨ d.Whole i ∨ d.Torn i := by
      intro bytes hframe hpre
      by_cases hnil : d.sent i = []
      · exact .inl hnil
      by_cases hall : d.sent i = bytes
      · exact .inr (.inl ⟨w, hw, hall ▸ hframe⟩)
      · exact .inr (.inr ⟨w, bytes, hw, hframe, hnil, hpre, hall⟩)
    have hout : ∀ {part}, parts (d.events i) = ([], part) → d.sent i = part := by
      intro part hp
      rw [sent, flatMap_writtenBy, hp]
      rfl
    have ha := h.account i w hw
    unfold Account at ha
    rcases hs : w.stage with _ | rest | result
    all_goals rw [hs] at ha; dsimp only at ha
    · exact .inl (by rw [sent, ha.1]; rfl)
    · obtain ⟨_, _, part, hframe, hp⟩ := ha
      exact hpart _ hframe ⟨rest, by rw [hout hp]⟩
    · generalize hev : d.events i = evs at ha
      cases ha with
      | nothing => exact .inl (by rw [sent, hev]; rfl)
      | whole eq out =>
        refine hpart _ eq ⟨[], ?_⟩
        rw [sent, flatMap_writtenBy, hev, out]
        simp
      | last eq part out gone =>
        rw [← hev] at out
        exact hpart _ eq (hout out ▸ part)
      | broken eq part out fault =>
        rw [← hev] at out
        exact hpart _ eq (hout out ▸ part)
  · -- nothing is known of a write that was never started, and it sent nothing
    apply Or.inl
    by_contra hne
    apply hlt
    apply h.started i
    left
    intro he
    apply hne
    rw [sent, he]
    rfl

/-- A torn write that is over and did not break has disposed the sender. -/
theorem Inv.disposed_of_torn {d : Desk} (h : d.Inv) {i : Nat} {result : Except Failure Unit}
    (torn : d.Torn i) (returned : d.Returned i result)
    (unbroken : ∀ e, result ≠ .error (.socket e)) : d.sender.disposed = true := by
  obtain ⟨w, bytes, hw, hframe, hnil, _, hall⟩ := torn
  obtain ⟨w', hw', hs⟩ := returned
  cases hw.symm.trans hw'
  have ha := h.account i w hw
  unfold Account at ha
  rw [hs] at ha
  dsimp only at ha
  generalize hev : d.events i = evs at ha
  have hout : d.sent i = (parts evs).1.flatten ++ (parts evs).2 := by
    rw [sent, flatMap_writtenBy, hev]
  -- of the four ends, only a write that gave up is torn and did not break
  cases ha with
  | nothing => exact absurd hout hnil
  | whole eq out =>
    rw [out] at hout
    rw [hframe] at eq
    cases eq
    exact absurd (by simpa using hout) hall
  | last _ _ _ gone => exact gone
  | broken => exact absurd rfl (unbroken _)

/-! ## Whole frames, and at most one part -/

theorem not_whole_of_torn {d : Desk} {i : Nat} (torn : d.Torn i) : ¬ d.Whole i := by
  obtain ⟨w, bytes, hw, hframe, _, _, hall⟩ := torn
  rintro ⟨w', hw', hframe'⟩
  cases hw.symm.trans hw'
  exact hall (Except.ok.inj (hframe'.symm.trans hframe))

/-- A torn write that did not break is not clean. -/
theorem Torn.not_clean {d : Desk} {i : Nat} (torn : d.Torn i)
    (unbroken : ∀ e, ¬ d.Returned i (.error (.socket e))) : ¬ d.Clean i := by
  rintro (hnil | ⟨w, hw, hframe | ⟨e, hs⟩⟩)
  · obtain ⟨_, _, _, _, hne, _⟩ := torn
    exact hne hnil
  · exact not_whole_of_torn torn ⟨w, hw, hframe⟩
  · exact unbroken e ⟨w, hw, hs⟩

/-- Writes in turn, none of which broke in the middle of its frame: after the
first torn one nothing is sent. -/
theorem Inv.whole_then_part {d : Desk} (h : d.Inv)
    (unbroken : ∀ i e, d.Torn i → ¬ d.Returned i (.error (.socket e))) (turns : List Nat)
    (htorn : turns.Pairwise fun i j => d.Clean i ∨ d.events j = []) :
    ∃ (whole : List Nat) (part : Bytes), whole.Sublist turns ∧ (∀ i ∈ whole, d.Whole i) ∧
      (part = [] ∨ ∃ i, d.Torn i ∧ part = d.sent i) ∧
      turns.flatMap d.sent = whole.flatMap d.sent ++ part := by
  -- by induction on the turns, from the first on
  induction turns with
  | nil => exact ⟨[], [], List.Sublist.refl _, List.forall_mem_nil _, .inl rfl, rfl⟩
  | cons i turns ih =>
    rw [List.pairwise_cons] at htorn
    obtain ⟨whole, part, hsub, hwhole, hpart, heq⟩ := ih htorn.2
    rcases h.sent_cases i with hnil | hi | hi
    · refine ⟨whole, part, hsub.cons i, hwhole, hpart, ?_⟩
      rw [List.flatMap_cons, hnil, List.nil_append, heq]
    · refine ⟨i :: whole, part, hsub.cons_cons i, ?_, hpart, ?_⟩
      · intro j hj
        rcases List.mem_cons.1 hj with rfl | hj
        · exact hi
        · exact hwhole j hj
      · rw [List.flatMap_cons, List.flatMap_cons, heq, List.append_assoc]
    · -- whoever comes later in turn has sent nothing
      have hrest : turns.flatMap d.sent = [] := by
        rw [List.flatMap_eq_nil_iff]
        intro j hj
        rw [sent, (htorn.1 j hj).resolve_left (hi.not_clean (unbroken i · hi))]
        rfl
      refine ⟨[], d.sent i, List.nil_sublist _, List.forall_mem_nil _, .inr ⟨i, hi, rfl⟩, ?_⟩
      rw [List.flatMap_cons, hrest, List.append_nil]
      rfl

/-! ## After a write broke -/

/-- A write breaks only on a usable sender, which it leaves usable and idle. -/
theorem Inv.usable_of_break {d : Desk} (h : d.Inv) {i : Nat} {e : SocketError}
    (before : ∀ result, ¬ d.Returned i result)
    (broke : (d.step (.poll i)).Returned i (.error (.socket e))) :
    (d.step (.poll i)).sender.disposed = false ∧
      (d.step (.poll i)).writes.any (·.stage.hasTurn) = false := by
  rcases hw : d.writes[i]? with _ | w
  · rw [step_poll_of_none hw] at broke
    exact absurd broke (before _)
  rw [step_poll hw] at broke ⊢
  obtain ⟨events, heq, _, ha⟩ := attempt_eq_put d i w
  rw [heq] at broke ⊢
  generalize d.sender.attempt (d.busy i) w = after at ha broke ⊢
  rcases after with ⟨stage, sender⟩
  dsimp only at ha broke ⊢
  obtain ⟨w', hw', hs'⟩ := broke
  rw [writes_put_self hw] at hw'
  cases hw'
  dsimp only at hs'
  -- the others do not send, and this write is over
  have hidle : (∀ j wj rest, j ≠ i → d.writes[j]? = some wj → wj.stage ≠ .sending rest) →
      (d.put i w stage sender (d.turnsAfter i w) events).writes.any (·.stage.hasTurn) = false := by
    intro hothers
    rw [List.any_eq_false]
    intro wj hwj
    obtain ⟨j, hj⟩ := List.getElem?_of_mem hwj
    by_cases hji : j = i
    · rw [hji, writes_put_self hw] at hj
      cases hj
      dsimp only
      rw [hs']
      exact Bool.false_ne_true
    · rw [writes_put_of_ne d hji] at hj
      rcases hs : wj.stage with _ | rest | result
      · exact Bool.false_ne_true
      · exact absurd hs (hothers j wj rest hji hj)
      · exact Bool.false_ne_true
  cases ha with
  | idles hs => exact absurd ⟨w, hw, hs⟩ (before _)
  | withdraws | queues | drops | refuses | tears => cases hs'
  | begins hs _ turn _ usable step =>
    cases step with
    | waits | delivers | closes => cases hs'
    | breaks _ _ _ _ kept => exact ⟨kept.trans usable, hidle (not_sending_of_not_busy turn)⟩
  | goesOn hs step =>
    have hacc := h.account i w hw
    unfold Account at hacc
    rw [hs] at hacc
    cases step with
    | waits | delivers | closes => cases hs'
    | breaks _ _ _ _ kept => exact ⟨kept.trans hacc.1, hidle (h.alone hw hs)⟩

/-- On a usable sender that nobody has, the next write is sent at once as far
as the socket takes it; a socket that takes everything takes the whole frame. -/
theorem written_next {d : Desk} (usable : d.sender.disposed = false)
    (idle : d.writes.any (·.stage.hasTurn) = false) (hw : d.sender.socket.writes = [])
    (hf : d.sender.socket.flushes = []) {token : Nat} (unfired : d.sender.hasFired token = false)
    (bytes : Bytes) :
    (d.run [.start token (.ok bytes), .poll d.writes.length]).written = d.written ++ bytes := by
  -- the new write stands last, and nobody keeps it waiting
  have hget : (d.step (.start token (.ok bytes))).writes[d.writes.length]? =
      some (Sender.newWrite token (.ok bytes)) := List.getElem?_concat_length
  have hbusy : (d.step (.start token (.ok bytes))).busy d.writes.length = false := by
    unfold busy
    change ((d.writes ++ [_]).eraseIdx d.writes.length).any _ = false
    rw [List.eraseIdx_append_of_length_le (Nat.le_refl _), Nat.sub_self]
    simpa using idle
  change ((d.step (.start token (.ok bytes))).step (.poll d.writes.length)).written = _
  rw [step_poll hget]
  unfold Desk.attempt written
  dsimp only
  rw [hbusy]
  have hsend : d.sender.attempt false (Sender.newWrite token (.ok bytes)) =
      d.sender.transmit bytes := by
    simp [Sender.attempt, Sender.newWrite, Sender.begin, unfired, usable]
  obtain ⟨sent, events, hg, _, _, hout⟩ := Socket.gains_pollTransmit bytes d.sender.socket
  have hready := Socket.pollTransmit_of_open hw hf bytes
  change (d.sender.attempt false (Sender.newWrite token (.ok bytes))).2.socket.journal.written = _
  rw [hsend]
  unfold Sender.transmit
  rcases hp : d.sender.socket.pollTransmit bytes with ⟨answer, rest, socket⟩
  rw [hp] at hg hout hready
  dsimp only at hg hout hready
  rw [hready]
  dsimp only
  rcases hout with ⟨_, hparts⟩ | ⟨hne, _⟩
  · rw [hg.written_eq, flatMap_writtenBy, hparts]
    simp
  · exact absurd hready hne

/-! ## The last thing on the wire -/

/-- **A torn frame is the last thing on the wire, unless its write broke.** In
every run of every sender:

* once a torn write has ended other than by a fault, nothing is sent any more;
* if no write broke in the middle of its frame, the socket took whole frames,
  one after the other, and then at most a part of one more;
* a write that breaks does not silence the sender: a socket that takes bytes
  again takes the whole next frame, right behind what came before. -/
theorem torn_write_is_last (s : Sender) (moves : List Move) :
    let d := (of s).run moves
    (∀ i result, d.Torn i → d.Returned i result → (∀ e, result ≠ .error (.socket e)) →
      ∀ more, (d.run more).written = d.written) ∧
    ((∀ i e, d.Torn i → ¬ d.Returned i (.error (.socket e))) →
      ∃ (whole : List Nat) (part : Bytes), whole.Nodup ∧ (∀ i ∈ whole, d.Whole i) ∧
        (part = [] ∨ ∃ i, d.Torn i ∧ part = d.sent i) ∧
        d.written = s.socket.journal.written ++ whole.flatMap d.sent ++ part) ∧
    ∀ i e, (∀ result, ¬ d.Returned i result) →
      (d.step (.poll i)).Returned i (.error (.socket e)) →
      (d.step (.poll i)).sender.socket.writes = [] →
      (d.step (.poll i)).sender.socket.flushes = [] →
      ∀ token bytes, (d.step (.poll i)).sender.hasFired token = false →
        ((d.step (.poll i)).run
          [.start token (.ok bytes), .poll (d.step (.poll i)).writes.length]).written =
            (d.step (.poll i)).written ++ bytes := by
  intro d
  have h : d.Inv := (inv_of s).run moves
  refine ⟨?_, ?_, ?_⟩
  · intro i result torn returned unbroken more
    exact h.silent_run (h.disposed_of_torn torn returned unbroken) more
  · intro unbroken
    obtain ⟨whole, part, hsub, hwhole, hpart, heq⟩ := h.whole_then_part unbroken d.turns h.tornLast
    refine ⟨whole, part, h.once.sublist hsub, hwhole, hpart, ?_⟩
    rw [List.append_assoc, ← heq]
    exact written_run s moves
  · intro i e before broke hw hf token bytes unfired
    obtain ⟨usable, idle⟩ := h.usable_of_break before broke
    exact written_next usable idle hw hf unfired bytes

deriving instance DecidableEq for Stage, Write

/-- A sender whose socket takes two bytes of the first frame and then fails. -/
def failing (fault : SocketFault) : Sender where
  socket := ⟨[], [.ready (some 2), .fail ⟨fault, "gone"⟩], [], [], []⟩
  disposed := false

/-- A write of four bytes that is over. -/
def overWrite (result : Except Failure Unit) : Write :=
  ⟨0, .ok [97, 98, 99, 100], .finished result⟩

/-- Its whole life: one attempt is enough. -/
def oneWrite : List Move := [.start 0 (.ok [97, 98, 99, 100]), .poll 0]

/-- What makes that write a torn one. -/
theorem torn_overWrite {d : Desk} {result : Except Failure Unit}
    (hw : d.writes = [overWrite result]) (hsent : d.sent 0 = [97, 98]) :
    d.Torn 0 ∧ ∀ i r, d.Returned i r ↔ i = 0 ∧ r = result := by
  have hfirst : d.writes[0]? = some (overWrite result) := by
    rw [hw]
    rfl
  refine ⟨⟨overWrite result, [97, 98, 99, 100], hfirst, rfl, ?_, ?_, ?_⟩, ?_⟩
  · rw [hsent]
    exact List.cons_ne_nil _ _
  · rw [hsent]
    exact ⟨[99, 100], rfl⟩
  · rw [hsent]
    decide
  · intro i r
    constructor
    · rintro ⟨w, hi, hs⟩
      rw [hw] at hi
      rcases i with _ | i
      · cases hi
        cases hs
        exact ⟨rfl, rfl⟩
      · cases hi
    · rintro ⟨rfl, rfl⟩
      exact ⟨_, hfirst, rfl⟩

/-- A frame torn by an end that no longer listens is the last. One torn by a
timeout is not: the next frame follows it. -/
theorem torn_write_is_last_applied :
    (∀ more, (((of (failing .brokenPipe)).run oneWrite).run more).written = [97, 98]) ∧
    (∃ (whole : List Nat) (part : Bytes),
      (∀ i ∈ whole, ((of (failing .brokenPipe)).run oneWrite).Whole i) ∧
      [97, 98] = whole.flatMap ((of (failing .brokenPipe)).run oneWrite).sent ++ part) ∧
    ((((of (failing .timedOut)).run [.start 0 (.ok [97, 98, 99, 100])]).step (.poll 0)).run
      [.start 1 (.ok [120, 121, 122]), .poll 1]).written = [97, 98, 120, 121, 122] := by
  have hwritten : ((of (failing .brokenPipe)).run oneWrite).written = [97, 98] := by
    decide +kernel
  have hclosed : ((of (failing .brokenPipe)).run oneWrite).writes = [overWrite (.ok ())] := by
    decide +kernel
  have hbefore : ((of (failing .timedOut)).run [.start 0 (.ok [97, 98, 99, 100])]).writes =
      [⟨0, .ok [97, 98, 99, 100], .waiting⟩] := by
    decide +kernel
  have hbroken : ((of (failing .timedOut)).run oneWrite).writes =
      [overWrite (.error (.socket ⟨.timedOut, "gone"⟩))] := by
    decide +kernel
  obtain ⟨htorn, hreturned⟩ := torn_overWrite hclosed (by decide +kernel)
  obtain ⟨_, hreturned'⟩ := torn_overWrite hbroken (by decide +kernel)
  refine ⟨?_, ?_, ?_⟩
  · intro more
    have h := (torn_write_is_last (failing .brokenPipe) oneWrite).1 0 (.ok ()) htorn
      ((hreturned 0 _).2 ⟨rfl, rfl⟩) (by rintro e ⟨⟩) more
    exact h.trans hwritten
  · obtain ⟨whole, part, _, hwhole, _, heq⟩ :=
      (torn_write_is_last (failing .brokenPipe) oneWrite).2.1 <| by
        intro i e _ hr
        cases ((hreturned i _).1 hr).2
    exact ⟨whole, part, hwhole, hwritten.symm.trans heq⟩
  · have h := (torn_write_is_last (failing .timedOut) [.start 0 (.ok [97, 98, 99, 100])]).2.2 0
      ⟨.timedOut, "gone"⟩ (by
        rintro result ⟨w, hw, hs⟩
        rw [hbefore] at hw
        cases hw
        cases hs) ((hreturned' 0 _).2 ⟨rfl, rfl⟩) (by decide +kernel) (by decide +kernel)
      1 [120, 121, 122] (by decide +kernel)
    apply h.trans
    decide +kernel

/-- A frame torn by a timeout, with the next frame behind it. -/
theorem torn_write_followed : ∃ (s : Sender) (moves more : List Move) (i : Nat)
    (result : Except Failure Unit), ((of s).run moves).Torn i ∧
      ((of s).run moves).Returned i result ∧
      (((of s).run moves).run more).written ≠ ((of s).run moves).written := by
  have hbroken : ((of (failing .timedOut)).run oneWrite).writes =
      [overWrite (.error (.socket ⟨.timedOut, "gone"⟩))] := by
    decide +kernel
  obtain ⟨htorn, hreturned⟩ := torn_overWrite hbroken (by decide +kernel)
  refine ⟨failing .timedOut, oneWrite, [.start 1 (.ok [120, 121, 122]), .poll 1], 0, _, htorn,
    (hreturned 0 _).2 ⟨rfl, rfl⟩, ?_⟩
  decide +kernel

end Desk

end ProxyTunnel
