/-
Writes that are over.

A write that has returned is never heard of again: later steps neither add to
its events nor change its result. And a write that returned without having sent
anything has left no trace at all. It did not even dispose the sender, for only
a write that had its turn can do that, and only one that then returned success
or was cancelled (`Desk.disposed_step`).
-/
import ProxyTunnel.Proofs.Sides
import ProxyTunnel.Proofs.Torn

set_option autoImplicit false

namespace ProxyTunnel

open Event

/-- A write that is over stays as it is. -/
theorem Sender.isFinished_attempt {busy : Bool} {w : Write} {s : Sender}
    (h : w.stage.isFinished = true) : (s.attempt busy w).1.isFinished = true := by
  unfold attempt
  rcases hs : w.stage with _ | rest | result
  · rw [hs] at h
    cases h
  · rw [hs] at h
    cases h
  · rfl

namespace Desk

/-! ## The sending side of the socket -/

/-- What the sending side of the socket has seen. -/
def sentEvents (d : Desk) : List Event := d.sender.socket.journal.events.filter isSent

/-- What one step adds to the sending side is what it adds to the log. -/
theorem sentEvents_step (d : Desk) (m : Move) :
    ∃ added, (d.step m).log = d.log ++ added ∧
      (d.step m).sentEvents = d.sentEvents ++ added.flatMap (·.2) := by
  rcases m with ⟨token, frame⟩ | i | token | _
  · exact ⟨[], (List.append_nil _).symm, (List.append_nil _).symm⟩
  · rcases hw : d.writes[i]? with _ | w
    · rw [step_poll_of_none hw]
      exact ⟨[], (List.append_nil _).symm, (List.append_nil _).symm⟩
    · rw [step_poll hw]
      obtain ⟨events, heq, hg, _⟩ := attempt_eq_put d i w
      have hall := (Sender.gainsOnly_attempt (d.busy i) w d.sender).all hg
      refine ⟨[(i, events)], by rw [heq]; rfl, ?_⟩
      change (d.sender.attempt (d.busy i) w).2.socket.journal.events.filter isSent = _
      rw [hg.events_eq, List.filter_append, List.filter_eq_self.2 (List.all_eq_true.1 hall),
        List.flatMap_singleton]
      rfl
  · refine ⟨[], (List.append_nil _).symm, ?_⟩
    simp [step, sentEvents, Socket.record, Journal.events, Journal.event?]
  · refine ⟨[], ?_, ?_⟩
    all_goals
      unfold step
      dsimp only
      split
    · exact (List.append_nil _).symm
    · exact (List.append_nil _).symm
    · exact (List.append_nil _).symm
    · -- a shutdown is nothing that is sent
      obtain ⟨events, hg, hall⟩ := Sender.gainsOnly_dispose d.sender
      have hnone : events.filter isSent = [] := by
        rw [List.filter_eq_nil_iff]
        intro e he
        rw [isSent_of_isShutDown (List.all_eq_true.1 hall e he)]
        exact Bool.false_ne_true
      change d.sender.dispose.socket.journal.events.filter isSent = _
      rw [hg.events_eq, List.filter_append, hnone]
      rfl

theorem sentEvents_run_log (d : Desk) (moves : List Move) :
    ∃ added, (d.run moves).log = d.log ++ added ∧
      (d.run moves).sentEvents = d.sentEvents ++ added.flatMap (·.2) := by
  induction moves generalizing d with
  | nil => exact ⟨[], (List.append_nil _).symm, (List.append_nil _).symm⟩
  | cons m moves ih =>
    obtain ⟨xs, hlog, hs⟩ := sentEvents_step d m
    obtain ⟨ys, hlog', hs'⟩ := ih (d.step m)
    refine ⟨xs ++ ys, ?_, ?_⟩
    · change ((d.step m).run moves).log = _
      rw [hlog', hlog, List.append_assoc]
    · change ((d.step m).run moves).sentEvents = _
      rw [hs', hs, List.flatMap_append, List.append_assoc]

/-- The sending side saw one write after the other, each in its turn. -/
theorem sentEvents_run (s : Sender) (moves : List Move) :
    ((of s).run moves).sentEvents = (of s).sentEvents ++
      ((of s).run moves).turns.flatMap ((of s).run moves).events := by
  obtain ⟨added, hlog, hs⟩ := sentEvents_run_log (of s) moves
  have hturn := ((inv_of s).run moves).inTurn
  change _ = [] ++ added at hlog
  rw [hlog, List.nil_append] at hturn
  rw [hs, hturn]

/-! ## A turn is had for good -/

theorem turns_prefix_turnsAfter (d : Desk) (i : Nat) (w : Write) :
    d.turns <+: d.turnsAfter i w := by
  unfold turnsAfter
  split
  · split
    · exact List.prefix_refl _
    · exact List.prefix_append _ _
  · exact List.prefix_refl _

theorem turns_step (d : Desk) (m : Move) : d.turns <+: (d.step m).turns := by
  rcases m with ⟨token, frame⟩ | i | token | _
  · exact List.prefix_refl _
  · rcases hw : d.writes[i]? with _ | w
    · exact ⟨[], by rw [step_poll_of_none hw, List.append_nil]⟩
    · rw [step_poll hw]
      exact turns_prefix_turnsAfter d i w
  · exact List.prefix_refl _
  · unfold step
    dsimp only
    split
    · exact List.prefix_refl _
    · exact List.prefix_refl _

theorem turns_run (d : Desk) (moves : List Move) : d.turns <+: (d.run moves).turns := by
  induction moves generalizing d with
  | nil => exact List.prefix_refl _
  | cons m moves ih => exact (turns_step d m).trans (ih _)

/-! ## A write that is over stays as it is -/

/-- Two desks agree on a write that is over. -/
def Settled (d d' : Desk) (i : Nat) (result : Except Failure Unit) : Prop :=
  d'.Returned i result ∧ d'.events i = d.events i

theorem settled_attempt {d : Desk} {i j : Nat} {result : Except Failure Unit} {w : Write}
    (hr : d.Returned i result) (hw : d.writes[j]? = some w) :
    d.Settled (d.attempt j w) i result := by
  obtain ⟨wi, hwi, hs⟩ := hr
  obtain ⟨events, heq, _, ha⟩ := attempt_eq_put d j w
  rw [heq]
  by_cases hij : i = j
  · -- an attempt at the write itself does nothing
    subst hij
    cases hwi.symm.trans hw
    generalize d.sender.attempt (d.busy i) w = after at ha ⊢
    rcases after with ⟨stage, sender⟩
    cases ha with
    | idles hs' =>
      cases hs.symm.trans hs'
      exact ⟨⟨_, writes_put_self hw _ _ _ _, rfl⟩, events_put_nil _ _ _ _ _ _ _⟩
    | withdraws hs' | queues hs' | drops hs' | refuses hs' | begins hs' | tears hs' | goesOn hs' =>
      cases hs.symm.trans hs'
  · exact ⟨⟨wi, (writes_put_of_ne d hij _ _ _ _ _).trans hwi, hs⟩, events_put_of_ne d hij _ _ _ _ _⟩

theorem settled_step {d : Desk} {i : Nat} {result : Except Failure Unit}
    (hr : d.Returned i result) (m : Move) : d.Settled (d.step m) i result := by
  rcases m with ⟨token, frame⟩ | j | token | _
  · obtain ⟨w, hw, hs⟩ := hr
    refine ⟨⟨w, ?_, hs⟩, rfl⟩
    change (d.writes ++ [_])[i]? = some w
    rw [List.getElem?_append_left (List.getElem?_eq_some_iff.1 hw).1, hw]
  · rcases hw : d.writes[j]? with _ | w
    · rw [step_poll_of_none hw]
      exact ⟨hr, rfl⟩
    · rw [step_poll hw]
      exact settled_attempt hr hw
  · exact ⟨hr, rfl⟩
  · unfold step
    dsimp only
    split
    · exact ⟨hr, rfl⟩
    · exact ⟨hr, rfl⟩

/-- **A write that is over stays so**, with the events that it has. -/
theorem settled_run {d : Desk} {i : Nat} {result : Except Failure Unit}
    (hr : d.Returned i result) (moves : List Move) : d.Settled (d.run moves) i result := by
  induction moves generalizing d with
  | nil => exact ⟨hr, rfl⟩
  | cons m moves ih =>
    obtain ⟨hr', he⟩ := settled_step hr m
    obtain ⟨hr'', he'⟩ := ih hr'
    exact ⟨hr'', he'.trans he⟩

theorem Returned.unique {d : Desk} {i : Nat} {a b : Except Failure Unit} (ha : d.Returned i a)
    (hb : d.Returned i b) : a = b := by
  obtain ⟨w, hw, hs⟩ := ha
  obtain ⟨w', hw', hs'⟩ := hb
  cases hw.symm.trans hw'
  exact Stage.finished.inj (hs.symm.trans hs')

/-! ## What a result tells -/

/-- A write that returned success while the sender is usable is out, all of it,
with one flush behind it. -/
theorem Inv.whole_of_ok {d : Desk} (h : d.Inv) {i : Nat} (hr : d.Returned i (.ok ()))
    (usable : d.sender.disposed = false) : ∃ w bytes, d.writes[i]? = some w ∧
      w.frame = .ok bytes ∧ parts (d.events i) = ([bytes], []) := by
  obtain ⟨w, hw, hs⟩ := hr
  have ha := h.account i w hw
  unfold Account at ha
  rw [hs] at ha
  dsimp only at ha
  generalize hev : d.events i = events at ha
  cases ha with
  | nothing ok => exact absurd (usable.symm.trans (ok rfl)) Bool.false_ne_true
  | whole eq out => exact ⟨w, _, hw, eq, out⟩
  | last _ _ _ gone => exact absurd (usable.symm.trans gone) Bool.false_ne_true

/-- What an attempt leaves behind: only a write that has its turn is heard, a
write is refused for its own frame, and only a write that has its turn and now
returns success or a cancellation may have disposed the sender. -/
theorem Inv.attempt_marks {d : Desk} (h : d.Inv) {i : Nat} {w : Write}
    (hw : d.writes[i]? = some w) :
    ∃ stage sender events, d.attempt i w = d.put i w stage sender (d.turnsAfter i w) events ∧
      (events ≠ [] → i ∈ d.turnsAfter i w) ∧
      (∀ e, stage = .finished (.error (.wire e)) → w.stage = stage ∨ w.frame = .error e) ∧
      (sender.disposed = d.sender.disposed ∨ i ∈ d.turnsAfter i w ∧
        (stage = .finished (.ok ()) ∨ stage = .finished (.error .cancelled))) := by
  obtain ⟨events, heq, _, ha⟩ := attempt_eq_put d i w
  refine ⟨_, _, events, heq, ?_⟩
  -- a write that begins takes its turn, and one that sends has it already
  have hbegins : w.stage = .waiting → d.sender.hasFired w.token = false → d.busy i = false →
      i ∈ d.turnsAfter i w := by
    intro hs unfired turn
    rw [turnsAfter_of_waiting hs, unfired, turn]
    exact List.mem_append_right _ (List.mem_singleton_self i)
  have hsending : ∀ rest, w.stage = .sending rest → i ∈ d.turnsAfter i w := by
    intro rest hs
    have hacc := h.account i w hw
    unfold Account at hacc
    rw [hs] at hacc
    rw [turnsAfter_of_ne (by rw [hs]; rintro ⟨⟩)]
    exact List.mem_of_getLast? hacc.2.1
  have hsent : ∀ {rest : Bytes} {stage : Stage} {sender : Sender},
      Sender.Transmits rest d.sender stage sender events →
      (∀ e, stage ≠ .finished (.error (.wire e))) ∧
        (sender.disposed = d.sender.disposed ∨ stage = .finished (.ok ())) := by
    intro rest stage sender step
    cases step with
    | waits _ _ _ kept => exact ⟨by rintro e ⟨⟩, .inl kept⟩
    | delivers _ _ kept => exact ⟨by rintro e ⟨⟩, .inl kept⟩
    | closes _ _ _ _ => exact ⟨by rintro e ⟨⟩, .inr rfl⟩
    | breaks _ _ _ _ kept => exact ⟨by rintro e ⟨⟩, .inl kept⟩
  generalize d.sender.attempt (d.busy i) w = after at ha ⊢
  rcases after with ⟨stage, sender⟩
  dsimp only at ha ⊢
  cases ha with
  | idles hs => exact ⟨absurd rfl, fun e he => .inl (hs.trans he ▸ hs), .inl rfl⟩
  | withdraws | queues | drops => exact ⟨absurd rfl, by rintro e ⟨⟩, .inl rfl⟩
  | refuses hs unfired turn frame usable =>
    refine ⟨absurd rfl, ?_, .inl rfl⟩
    rintro e ⟨⟩
    exact .inr frame
  | begins hs unfired turn frame usable step =>
    have hi := hbegins hs unfired turn
    obtain ⟨hwire, hkept⟩ := hsent step
    exact ⟨fun _ => hi, fun e he => absurd he (hwire e), hkept.imp_right fun hok => ⟨hi, .inl hok⟩⟩
  | tears hs fired =>
    exact ⟨absurd rfl, by rintro e ⟨⟩, .inr ⟨hsending _ hs, .inr rfl⟩⟩
  | goesOn hs step =>
    have hi := hsending _ hs
    obtain ⟨hwire, hkept⟩ := hsent step
    exact ⟨fun _ => hi, fun e he => absurd he (hwire e), hkept.imp_right fun hok => ⟨hi, .inl hok⟩⟩

/-- Writes that were never heard: those that never had their turn, and those
that were refused. -/
structure Silent (d : Desk) : Prop where
  turn : ∀ i, d.events i ≠ [] → i ∈ d.turns
  refused : ∀ i e, d.Returned i (.error (.wire e)) →
    ∃ w, d.writes[i]? = some w ∧ w.frame = .error e

theorem Silent.start {d : Desk} (hs : d.Silent) (token : Nat) (frame : Except WireError Bytes) :
    (d.step (.start token frame)).Silent := by
  refine ⟨hs.turn, ?_⟩
  rintro i e ⟨w, hw, hr⟩
  change (d.writes ++ [_])[i]? = some w at hw
  by_cases hlt : i < d.writes.length
  · rw [List.getElem?_append_left hlt] at hw
    obtain ⟨w', hw', hframe⟩ := hs.refused i e ⟨w, hw, hr⟩
    refine ⟨w', ?_, hframe⟩
    change (d.writes ++ [_])[i]? = some w'
    rw [List.getElem?_append_left hlt, hw']
  · -- a write that starts has not returned
    rw [List.getElem?_append_right (Nat.le_of_not_lt hlt)] at hw
    obtain rfl := List.mem_singleton.1 (List.mem_of_getElem? hw)
    cases hr

/-- Who is heard has had its turn, and who is refused has no frame. -/
theorem Silent.attempt {d : Desk} (hs : d.Silent) (h : d.Inv) {i : Nat} {w : Write}
    (hw : d.writes[i]? = some w) : (d.attempt i w).Silent := by
  obtain ⟨stage, sender, events, heq, hturn, hwire, _⟩ := h.attempt_marks hw
  have hkeep : ∀ j, j ∈ d.turns → j ∈ d.turnsAfter i w := fun j =>
    ((turns_prefix_turnsAfter d i w).subset ·)
  rw [heq]
  refine ⟨?_, ?_⟩
  · intro j hj
    change j ∈ d.turnsAfter i w
    rw [events_put] at hj
    by_cases hji : j = i
    · subst hji
      rw [if_pos rfl] at hj
      by_cases hnil : events = []
      · rw [hnil, List.append_nil] at hj
        exact hkeep j (hs.turn j hj)
      · exact hturn hnil
    · rw [if_neg hji] at hj
      exact hkeep j (hs.turn j hj)
  · rintro j e ⟨wj, hwj, hr⟩
    by_cases hji : j = i
    · subst hji
      rw [writes_put_self hw] at hwj ⊢
      cases hwj
      refine ⟨_, rfl, ?_⟩
      rcases hwire e hr with hsame | hframe
      · obtain ⟨w', hw', hframe⟩ := hs.refused j e ⟨w, hw, hsame.trans hr⟩
        cases hw.symm.trans hw'
        exact hframe
      · exact hframe
    · rw [writes_put_of_ne d hji] at hwj ⊢
      exact hs.refused j e ⟨wj, hwj, hr⟩

theorem Silent.step {d : Desk} (hs : d.Silent) (h : d.Inv) (m : Move) : (d.step m).Silent := by
  rcases m with ⟨token, frame⟩ | i | token | _
  · exact hs.start token frame
  · rcases hw : d.writes[i]? with _ | w
    · rw [step_poll_of_none hw]
      exact hs
    · rw [step_poll hw]
      exact hs.attempt h hw
  · exact ⟨hs.turn, hs.refused⟩
  · unfold Desk.step
    dsimp only
    split
    · exact hs
    · exact ⟨hs.turn, hs.refused⟩

theorem Silent.run {d : Desk} (hs : d.Silent) (h : d.Inv) (moves : List Move) :
    (d.run moves).Silent := by
  induction moves generalizing d with
  | nil => exact hs
  | cons m moves ih => exact ih (hs.step h m) (h.step m)

theorem silent_of (s : Sender) : (of s).Silent := by
  refine ⟨fun i hi => absurd rfl hi, ?_⟩
  rintro i e ⟨w, hw, _⟩
  cases hw

/-- A write that was refused has no events, though it had its turn. -/
theorem Silent.events_of_refused {d : Desk} (hs : d.Silent) (h : d.Inv) {i : Nat} {e : WireError}
    (hr : d.Returned i (.error (.wire e))) : d.events i = [] := by
  obtain ⟨w, hw, hframe⟩ := hs.refused i e hr
  obtain ⟨w', hw', hstage⟩ := hr
  cases hw.symm.trans hw'
  have ha := h.account i w hw
  unfold Account at ha
  rw [hstage] at ha
  dsimp only at ha
  generalize d.events i = events at ha
  -- the ends with events are those of a frame that could be encoded
  cases ha with
  | nothing => rfl
  | last eq => cases hframe.symm.trans eq

/-- **Who may dispose the sender**: whoever does it on purpose, and a write that
has its turn and now returns success or a cancellation. -/
theorem Inv.disposed_step {d : Desk} (h : d.Inv) (m : Move) :
    (d.step m).sender.disposed = d.sender.disposed ∨ m = .dispose ∨
      ∃ i, m = .poll i ∧ i ∈ (d.step m).turns ∧
        ((d.step m).Returned i (.ok ()) ∨ (d.step m).Returned i (.error .cancelled)) := by
  rcases m with ⟨token, frame⟩ | i | token | _
  · exact .inl rfl
  · rcases hw : d.writes[i]? with _ | w
    · rw [step_poll_of_none hw]
      exact .inl rfl
    rw [step_poll hw]
    obtain ⟨stage, sender, events, heq, _, _, hkept | ⟨hi, hend⟩⟩ := h.attempt_marks hw
    all_goals rw [heq]
    · exact .inl hkept
    · have hself := writes_put_self hw stage sender (d.turnsAfter i w) events
      exact .inr (.inr ⟨i, rfl, hi, hend.imp (⟨_, hself, ·⟩) (⟨_, hself, ·⟩)⟩)
  · exact .inl rfl
  · exact .inr (.inl rfl)

end Desk

end ProxyTunnel
