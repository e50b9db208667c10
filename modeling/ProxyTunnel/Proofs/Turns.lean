/-
Any number of writes on one sender, in any order of steps.

`Sender.round` attempts writes in the order in which they were started. Tasks
need not be that orderly: they may start, wait and resume in any order, on any
thread. A `Desk` is a sender with all the writes started on it, and a `Move` is
one thing that may happen: a write starts, one of them is attempted, a token
fires, or the sender is disposed while nobody has the turn. `Sender.attempt` is
the step of the sender itself, so a run of moves is a run of the sender.

The desk also keeps what no sender needs to know: which write got its turn when
(`Desk.turns`), and for which write the events of an attempt were made
(`Desk.log`). What a run preserves is `Desk.Inv`: the stage of a write tells
which bytes of its frame are out, the one that is sending had the last turn,
and bytes follow a torn frame only if its write broke.
-/
import Mathlib.Data.List.Basic
import Mathlib.Data.List.Nodup
import ProxyTunnel.Proofs.Transmission

set_option autoImplicit false

namespace ProxyTunnel

open Event

/-! ## Desks and moves -/

/-- A sender and the writes started on it. -/
structure Desk where
  sender : Sender
  writes : List Write
  /-- The writes that got their turn, in that order. -/
  turns : List Nat
  /-- The events of every attempt, and the write it was made for. -/
  log : List (Nat × List Event)

/-- What may happen next. -/
inductive Move where
  | start (token : Nat) (frame : Except WireError Bytes)
  | poll (i : Nat)
  | fire (token : Nat)
  | dispose

namespace Desk

/-- A sender with nothing to do. -/
def of (s : Sender) : Desk := ⟨s, [], [], []⟩

/-- Whether a write other than this one has its turn. -/
def busy (d : Desk) (i : Nat) : Bool := (d.writes.eraseIdx i).any (·.stage.hasTurn)

/-- The turns after an attempt at a write: a write that need not wait any longer
gets its own. -/
def turnsAfter (d : Desk) (i : Nat) (w : Write) : List Nat :=
  match w.stage with
  | .waiting => if d.sender.hasFired w.token || d.busy i then d.turns else d.turns ++ [i]
  | _ => d.turns

/-- The desk after an attempt at a write. -/
def attempt (d : Desk) (i : Nat) (w : Write) : Desk :=
  let after := d.sender.attempt (d.busy i) w
  { sender := after.2
    writes := d.writes.set i { w with stage := after.1 }
    turns := d.turnsAfter i w
    log := d.log ++
      [(i, Journal.events (after.2.socket.journal.drop d.sender.socket.journal.length))] }

/-- The desk after a move. -/
def step (d : Desk) : Move → Desk
  | .start token frame => { d with writes := d.writes ++ [Sender.newWrite token frame] }
  | .poll i => match d.writes[i]? with
    | some w => d.attempt i w
    | none => d
  | .fire token =>
    { d with sender := { d.sender with socket := d.sender.socket.record (.fired token) } }
  | .dispose =>
    -- it waits for its turn as writes do
    if d.writes.any (·.stage.hasTurn) then d else { d with sender := d.sender.dispose }

theorem step_poll {d : Desk} {i : Nat} {w : Write} (hw : d.writes[i]? = some w) :
    d.step (.poll i) = d.attempt i w := by
  rw [step, hw]

theorem step_poll_of_none {d : Desk} {i : Nat} (hw : d.writes[i]? = none) :
    d.step (.poll i) = d := by
  rw [step, hw]

/-- The desk after a run. -/
def run (d : Desk) (moves : List Move) : Desk := moves.foldl step d

/-- The bytes that the socket has taken. -/
def written (d : Desk) : Bytes := d.sender.socket.journal.written

/-- The events made for a write. -/
def events (d : Desk) (i : Nat) : List Event := (d.log.filter (·.1 == i)).flatMap (·.2)

/-- The bytes of a write that the socket has taken. -/
def sent (d : Desk) (i : Nat) : Bytes := (d.events i).flatMap Journal.writtenBy

/-! ## What the stage of a write tells -/

/-- The end of a write: nothing of its frame is out, all of it is, or a part of
it that is the last thing sent or belongs to a write that broke. -/
inductive Outcome (frame : Except WireError Bytes) (disposed : Bool) :
    List Event → Except Failure Unit → Prop
  | nothing {result : Except Failure Unit} (ok : result = .ok () → disposed = true) :
      Outcome frame disposed [] result
  | whole {bytes : Bytes} {events : List Event} (eq : frame = .ok bytes)
      (out : parts events = ([bytes], [])) : Outcome frame disposed events (.ok ())
  | last {bytes sent : Bytes} {events : List Event} {result : Except Failure Unit}
      (eq : frame = .ok bytes) (part : sent <+: bytes) (out : parts events = ([], sent))
      (gone : disposed = true) : Outcome frame disposed events result
  | broken {bytes sent : Bytes} {events : List Event} {e : SocketError} (eq : frame = .ok bytes)
      (part : sent <+: bytes) (out : parts events = ([], sent))
      (fault : e.fault.isClosed = false) :
      Outcome frame disposed events (.error (.socket e))

/-- What is known of a write at its stage. -/
def Account (d : Desk) (i : Nat) (w : Write) : Prop :=
  match w.stage with
  | .waiting => d.events i = [] ∧ i ∉ d.turns
  | .sending rest => d.sender.disposed = false ∧ d.turns.getLast? = some i ∧
      ∃ sent, w.frame = .ok (sent ++ rest) ∧ parts (d.events i) = ([], sent)
  | .finished result => Outcome w.frame d.sender.disposed (d.events i) result

/-- Nothing of a write stands unfinished on the wire, or the write broke. -/
def Clean (d : Desk) (i : Nat) : Prop :=
  d.sent i = [] ∨ ∃ w, d.writes[i]? = some w ∧
    (w.frame = .ok (d.sent i) ∨ ∃ e, w.stage = .finished (.error (.socket e)))

/-- What every run preserves. -/
structure Inv (d : Desk) : Prop where
  started : ∀ i, d.events i ≠ [] ∨ i ∈ d.turns → i < d.writes.length
  once : d.turns.Nodup
  account : ∀ i w, d.writes[i]? = some w → d.Account i w
  inTurn : d.log.flatMap (·.2) = d.turns.flatMap d.events
  tornLast : d.turns.Pairwise fun i j => d.Clean i ∨ d.events j = []

/-! ## One attempt -/

/-- The desk after an attempt that did this. -/
def put (d : Desk) (i : Nat) (w : Write) (stage : Stage) (sender : Sender) (turns : List Nat)
    (events : List Event) : Desk :=
  ⟨sender, d.writes.set i { w with stage }, turns, d.log ++ [(i, events)]⟩

theorem events_put (d : Desk) (i j : Nat) (w : Write) (stage : Stage) (sender : Sender)
    (turns : List Nat) (events : List Event) :
    (d.put i w stage sender turns events).events j =
      if j = i then d.events i ++ events else d.events j := by
  unfold Desk.events put
  rw [List.filter_append, List.flatMap_append]
  by_cases h : j = i
  · subst h
    simp
  · have hne : (i == j) = false := by
      rw [beq_eq_false_iff_ne]
      intro he
      exact h he.symm
    simp [hne, h]

theorem writes_put_self {d : Desk} {i : Nat} {w : Write} (hw : d.writes[i]? = some w)
    (stage : Stage) (sender : Sender) (turns : List Nat) (events : List Event) :
    (d.put i w stage sender turns events).writes[i]? = some { w with stage } := by
  obtain ⟨hlt, _⟩ := List.getElem?_eq_some_iff.1 hw
  exact List.getElem?_set_self hlt

theorem writes_put_of_ne (d : Desk) {i j : Nat} (h : j ≠ i) (w : Write) (stage : Stage)
    (sender : Sender) (turns : List Nat) (events : List Event) :
    (d.put i w stage sender turns events).writes[j]? = d.writes[j]? :=
  List.getElem?_set_ne (Ne.symm h)

theorem writes_attempt_self {d : Desk} {i : Nat} {w : Write} (hw : d.writes[i]? = some w) :
    (d.attempt i w).writes[i]? =
      some { w with stage := (d.sender.attempt (d.busy i) w).1 } :=
  writes_put_self hw _ d.sender [] []

theorem writes_attempt_of_ne (d : Desk) {i j : Nat} (h : j ≠ i) (w : Write) :
    (d.attempt i w).writes[j]? = d.writes[j]? :=
  writes_put_of_ne d h w _ d.sender [] []

/-- Every attempt is one of those that `Sender.Attempts` lists. -/
theorem attempt_eq_put (d : Desk) (i : Nat) (w : Write) :
    ∃ events, d.attempt i w = d.put i w (d.sender.attempt (d.busy i) w).1
        (d.sender.attempt (d.busy i) w).2 (d.turnsAfter i w) events ∧
      d.sender.socket.journal.Gains (d.sender.attempt (d.busy i) w).2.socket.journal events ∧
      Sender.Attempts (d.busy i) w d.sender (d.sender.attempt (d.busy i) w).1
        (d.sender.attempt (d.busy i) w).2 events := by
  obtain ⟨events, hg, ha⟩ := Sender.attempts_attempt (d.busy i) w d.sender
  refine ⟨events, ?_, hg, ha⟩
  obtain ⟨added, hj, rfl⟩ := hg
  unfold attempt put
  simp only [hj, List.drop_left]

theorem Outcome.mono {frame : Except WireError Bytes} {before after : Bool}
    {events : List Event} {result : Except Failure Unit} (h : Outcome frame before events result)
    (hle : before = true → after = true) : Outcome frame after events result := by
  cases h with
  | nothing ok => exact .nothing (hle ∘ ok)
  | whole eq out => exact .whole eq out
  | last eq part out gone => exact .last eq part out (hle gone)
  | broken eq part out fault => exact .broken eq part out fault

/-- While the sender is usable, every write that had its turn and does not send
any more is clean. -/
theorem Inv.clean {d : Desk} (h : d.Inv) (usable : d.sender.disposed = false) {k : Nat}
    (hk : k ∈ d.turns) (hquiet : ∀ w rest, d.writes[k]? = some w → w.stage ≠ .sending rest) :
    d.Clean k := by
  obtain ⟨w, hw⟩ : ∃ w, d.writes[k]? = some w :=
    ⟨_, List.getElem?_eq_getElem (h.started k (.inr hk))⟩
  have ha := h.account k w hw
  unfold Account at ha
  rcases hs : w.stage with _ | rest | result
  all_goals rw [hs] at ha; dsimp only at ha
  · exact absurd hk ha.2
  · exact absurd hs (hquiet w rest hw)
  · rw [usable] at ha
    have hout : ∀ p, parts (d.events k) = p → d.sent k = p.1.flatten ++ p.2 := by
      rintro p rfl
      exact flatMap_writtenBy _
    generalize hev : d.events k = evs at ha hout
    cases ha with
    | nothing ok => exact .inl (by rw [sent, hev]; rfl)
    | whole eq out =>
      refine .inr ⟨w, hw, .inl ?_⟩
      rw [hout _ out, eq]
      simp
    | last _ _ _ gone => cases gone
    | broken => exact .inr ⟨w, hw, .inr ⟨_, hs⟩⟩

/-- What an attempt may do: the write that is attempted may take its turn if it
waited, and may put bytes on the wire only as the last in turn on a usable
sender; the sender may change under the others only while none of them sends. -/
structure Allows (d : Desk) (i : Nat) (w : Write) (stage : Stage) (sender : Sender)
    (turns : List Nat) (events : List Event) : Prop where
  there : d.writes[i]? = some w
  turn : turns = d.turns ∨ turns = d.turns ++ [i] ∧ w.stage = .waiting
  kept : d.sender.disposed = true → sender.disposed = true
  others : sender.disposed = d.sender.disposed ∧ turns = d.turns ∨
    ∀ j wj rest, j ≠ i → d.writes[j]? = some wj → wj.stage ≠ .sending rest
  loud : events ≠ [] → d.sender.disposed = false ∧ turns.getLast? = some i
  ended : ∀ result, w.stage = .finished result → stage = .finished result
  account : (d.put i w stage sender turns events).Account i { w with stage }

section

variable {d : Desk} {i : Nat} {w : Write} {stage : Stage} {sender : Sender} {turns : List Nat}
  {events : List Event}

theorem Inv.fresh (h : d.Inv) (hw : d.writes[i]? = some w) (hs : w.stage = .waiting) :
    d.events i = [] ∧ i ∉ d.turns := by
  have ha := h.account i w hw
  unfold Account at ha
  rw [hs] at ha
  exact ha

theorem Allows.mem_turns (a : d.Allows i w stage sender turns events) {k : Nat} (hk : k ∈ turns) :
    k ∈ d.turns ∨ k = i := by
  rcases a.turn with ht | ⟨ht, _⟩
  · exact .inl (ht ▸ hk)
  · rw [ht, List.mem_append, List.mem_singleton] at hk
    exact hk

theorem Allows.once (a : d.Allows i w stage sender turns events) (h : d.Inv) : turns.Nodup := by
  -- a write that takes its turn only now was waiting, and had none before
  rcases a.turn with ht | ⟨ht, hs⟩
  · rw [ht]
    exact h.once
  · rw [ht, List.nodup_append]
    refine ⟨h.once, List.nodup_singleton i, ?_⟩
    rintro k hk j hj rfl
    rw [List.mem_singleton] at hj
    exact (h.fresh a.there hs).2 (hj ▸ hk)

/-- A write that gains events stands last, behind others that had their turns. -/
theorem Allows.front (a : d.Allows i w stage sender turns events) (h : d.Inv)
    (hne : events ≠ []) : ∃ front, turns = front ++ [i] ∧ i ∉ front ∧ front.Sublist d.turns ∧
      d.turns.flatMap d.events = front.flatMap d.events ++ d.events i := by
  -- only the write with the last turn is heard
  obtain ⟨front, hf⟩ := List.getLast?_eq_some_iff.1 (a.loud hne).2
  have honce := a.once h
  rw [hf, List.nodup_append] at honce
  have hfront : i ∉ front := by
    intro hi
    exact honce.2.2 i hi i (List.mem_singleton_self i) rfl
  refine ⟨front, hf, hfront, ?_⟩
  rcases a.turn with ht | ⟨ht, hs⟩
  · rw [← ht, hf, List.flatMap_append, List.flatMap_singleton]
    exact ⟨List.sublist_append_left _ _, rfl⟩
  · rw [ht] at hf
    rw [List.append_cancel_right hf, (h.fresh a.there hs).1, List.append_nil]
    exact ⟨List.Sublist.refl _, rfl⟩

theorem events_put_of_ne (d : Desk) {k : Nat} (h : k ≠ i) (w : Write) (stage : Stage)
    (sender : Sender) (turns : List Nat) (events : List Event) :
    (d.put i w stage sender turns events).events k = d.events k := by
  rw [events_put, if_neg h]

theorem events_put_nil (d : Desk) (i k : Nat) (w : Write) (stage : Stage) (sender : Sender)
    (turns : List Nat) : (d.put i w stage sender turns []).events k = d.events k := by
  rw [events_put]
  by_cases h : k = i
  · rw [if_pos h, List.append_nil, h]
  · rw [if_neg h]

/-- A write that stays as it is on the wire stays clean. -/
theorem Clean.put {k : Nat} (hc : d.Clean k) (hw : d.writes[i]? = some w)
    (hover : ∀ result, w.stage = .finished result → stage = .finished result)
    (hquiet : k = i → events = []) : (d.put i w stage sender turns events).Clean k := by
  have hsent : (d.put i w stage sender turns events).sent k = d.sent k := by
    by_cases hk : k = i
    · rw [sent, hquiet hk, events_put_nil, sent]
    · rw [sent, events_put_of_ne d hk, sent]
  unfold Clean
  rw [hsent]
  rcases hc with hc | ⟨w', hw', hc⟩
  · exact .inl hc
  by_cases hk : k = i
  · rw [hk] at hw'
    rw [hk, writes_put_self hw]
    cases hw.symm.trans hw'
    refine .inr ⟨_, rfl, ?_⟩
    rcases hc with hc | ⟨e, hc⟩
    · exact .inl (hk ▸ hc)
    · exact .inr ⟨e, hover _ hc⟩
  · rw [writes_put_of_ne d hk]
    exact .inr ⟨w', hw', hc⟩

/-- The accounts of the writes that are not attempted stay true. -/
theorem Allows.account_of_ne (a : d.Allows i w stage sender turns events) (h : d.Inv) {k : Nat}
    {wk : Write} (hk : k ≠ i) (hwk : d.writes[k]? = some wk) :
    (d.put i w stage sender turns events).Account k wk := by
  have ha := h.account k wk hwk
  unfold Account at ha ⊢
  rw [events_put_of_ne d hk]
  rcases hs : wk.stage with _ | rest | result
  all_goals rw [hs] at ha; dsimp only at ha ⊢
  · exact ⟨ha.1, fun hm => ha.2 ((a.mem_turns hm).resolve_right hk)⟩
  · -- while another sends, the attempt changes neither the turns nor the sender
    rcases a.others with ⟨hd, ht⟩ | hnone
    · exact ⟨hd.trans ha.1, ht ▸ ha.2.1, ha.2.2⟩
    · exact absurd hs (hnone k wk rest hk hwk)
  · exact ha.mono a.kept

/-- The socket still sees the writes in turn. -/
theorem Allows.inTurn (a : d.Allows i w stage sender turns events) (h : d.Inv) :
    (d.put i w stage sender turns events).log.flatMap (·.2) =
      turns.flatMap (d.put i w stage sender turns events).events := by
  change (d.log ++ [(i, events)]).flatMap (·.2) = _
  rw [List.flatMap_append, h.inTurn, List.flatMap_singleton]
  -- silence changes nothing; otherwise the events go behind all others
  by_cases hne : events = []
  · rw [hne, List.append_nil, funext (events_put_nil d i · w stage sender turns)]
    rcases a.turn with ht | ⟨ht, hs⟩
    · rw [ht]
    · rw [ht, List.flatMap_append, List.flatMap_singleton, (h.fresh a.there hs).1, List.append_nil]
  · obtain ⟨front, hf, hi, _, hlast⟩ := a.front h hne
    have hfront : front.flatMap (d.put i w stage sender turns events).events =
        front.flatMap d.events := by
      apply List.flatMap_congr
      intro k hk
      apply events_put_of_ne
      rintro rfl
      exact hi hk
    have hself : (d.put i w stage sender turns events).events i = d.events i ++ events := by
      rw [events_put, if_pos rfl]
    calc d.turns.flatMap d.events ++ events
        = front.flatMap d.events ++ (d.events i ++ events) := by rw [hlast, List.append_assoc]
      _ = (front ++ [i]).flatMap (d.put i w stage sender turns events).events := by
          rw [List.flatMap_append, List.flatMap_singleton, hfront, hself]
      _ = turns.flatMap (d.put i w stage sender turns events).events := by rw [← hf]

/-- Bytes still follow a torn frame only if its write broke. -/
theorem Allows.tornLast (a : d.Allows i w stage sender turns events) (h : d.Inv) :
    turns.Pairwise fun k j => (d.put i w stage sender turns events).Clean k ∨
      (d.put i w stage sender turns events).events j = [] := by
  -- two writes that gain no events are as they were
  have hold : ∀ k j, (k = i → events = []) → (j = i → events = []) →
      d.Clean k ∨ d.events j = [] → (d.put i w stage sender turns events).Clean k ∨
        (d.put i w stage sender turns events).events j = [] := by
    intro k j hk hj hkj
    rcases hkj with hc | he
    · exact .inl (hc.put a.there a.ended hk)
    · right
      by_cases hji : j = i
      · rw [hj hji, events_put_nil, he]
      · rw [events_put_of_ne d hji, he]
  by_cases hne : events = []
  · have hpair := h.tornLast.imp fun {k j} => hold k j (fun _ => hne) (fun _ => hne)
    rcases a.turn with ht | ⟨ht, hs⟩
    · rw [← ht] at hpair
      exact hpair
    · subst ht
      refine List.pairwise_append.2 ⟨hpair, List.pairwise_singleton _ _, ?_⟩
      intro k _ j hj
      rw [List.mem_singleton] at hj
      rw [hne, events_put_nil, hj]
      exact .inr (h.fresh a.there hs).1
  · obtain ⟨front, hf, hi, hsub, _⟩ := a.front h hne
    have hother : ∀ k, k ∈ front → k ≠ i := by
      rintro k hk rfl
      exact hi hk
    subst hf
    refine List.pairwise_append.2 ⟨?_, List.pairwise_singleton _ _, ?_⟩
    · refine (h.tornLast.sublist hsub).imp_of_mem ?_
      intro k j hk hj
      exact hold k j (absurd · (hother k hk)) (absurd · (hother j hj))
    · -- whoever had a turn before this one is clean, for the sender is usable
      intro k hk j _
      have hquiet : ∀ wk rest, d.writes[k]? = some wk → wk.stage ≠ .sending rest := by
        intro wk rest hwk hs
        have ha := h.account k wk hwk
        unfold Account at ha
        rw [hs] at ha
        rcases a.others with ⟨_, ht⟩ | hnone
        · have hlast := (a.loud hne).2
          rw [ht, ha.2.1] at hlast
          exact hother k hk (Option.some.inj hlast)
        · exact hnone k wk rest (hother k hk) hwk hs
      have hc := h.clean (a.loud hne).1 (hsub.subset hk) hquiet
      exact .inl (hc.put a.there a.ended (absurd · (hother k hk)))

/-- **What an attempt preserves.** -/
theorem Inv.put (h : d.Inv) (a : d.Allows i w stage sender turns events) :
    (d.put i w stage sender turns events).Inv where
  started k hk := by
    change k < (d.writes.set i { w with stage }).length
    rw [List.length_set]
    by_cases hki : k = i
    · exact hki ▸ (List.getElem?_eq_some_iff.1 a.there).1
    · rw [events_put_of_ne d hki] at hk
      apply h.started k
      apply hk.imp_right
      intro hm
      exact (a.mem_turns hm).resolve_right hki
  once := a.once h
  account k wk hwk := by
    by_cases hki : k = i
    · rw [hki, writes_put_self a.there] at hwk
      cases hwk
      exact hki ▸ a.account
    · rw [writes_put_of_ne d hki] at hwk
      exact a.account_of_ne h hki hwk
  inTurn := a.inTurn h
  tornLast := a.tornLast h

end

/-! ## All attempts -/

/-- With nobody else's turn in the way, nobody else sends. -/
theorem not_sending_of_not_busy {d : Desk} {i : Nat} (h : d.busy i = false) (j : Nat) (wj : Write)
    (rest : Bytes) (hj : j ≠ i) (hwj : d.writes[j]? = some wj) : wj.stage ≠ .sending rest := by
  intro hs
  -- a write that sends has the turn
  have hmem : wj ∈ d.writes.eraseIdx i := List.mem_eraseIdx_iff_getElem?.2 ⟨j, hj, hwj⟩
  have hturn := List.any_eq_false.1 h wj hmem
  rw [hs] at hturn
  exact hturn rfl

/-- A write that sends is the only one that does. -/
theorem Inv.alone {d : Desk} (h : d.Inv) {i : Nat} {w : Write} {rest : Bytes}
    (hw : d.writes[i]? = some w) (hs : w.stage = .sending rest) (j : Nat) (wj : Write)
    (restj : Bytes) (hj : j ≠ i) (hwj : d.writes[j]? = some wj) : wj.stage ≠ .sending restj := by
  intro hsj
  have hi := h.account i w hw
  have hj' := h.account j wj hwj
  unfold Account at hi hj'
  rw [hs] at hi
  rw [hsj] at hj'
  -- both would have had the last turn
  exact hj (Option.some.inj (hj'.2.1.symm.trans hi.2.1))

/-- What an attempt to send the rest of a frame leaves is accounted for. -/
theorem account_of_transmits {d : Desk} {i : Nat} {w : Write} {sent rest : Bytes} {stage : Stage}
    {sender : Sender} {turns : List Nat} {events : List Event}
    (hframe : w.frame = .ok (sent ++ rest)) (hsent : parts (d.events i) = ([], sent))
    (usable : d.sender.disposed = false) (hlast : turns.getLast? = some i)
    (step : Sender.Transmits rest d.sender stage sender events) :
    (d.put i w stage sender turns events).Account i { w with stage } := by
  have hev : (d.put i w stage sender turns events).events i = d.events i ++ events := by
    rw [events_put, if_pos rfl]
  have hparts : ∀ p, parts events = p →
      parts (d.events i ++ events) = joinParts ([], sent) p := by
    rintro p rfl
    exact parts_append_of_open hsent
  unfold Account
  rw [hev]
  -- what is out grows by what this attempt sent, whichever way it ends
  cases step with
  | waits split out heard kept =>
    refine ⟨kept.trans usable, hlast, _, ?_, hparts _ out⟩
    rw [List.append_assoc, ← split]
    exact hframe
  | delivers out heard kept => exact .whole hframe (hparts _ out)
  | closes part out unheard gone =>
    exact .last hframe ((List.prefix_append_right_inj sent).2 part) (hparts _ out) gone
  | breaks part fault out heard kept =>
    exact .broken hframe ((List.prefix_append_right_inj sent).2 part) (hparts _ out) fault

/-- A write that waits takes its turn, unless its token has fired or another has
its own. -/
theorem turnsAfter_of_waiting {d : Desk} {i : Nat} {w : Write} (hs : w.stage = .waiting) :
    d.turnsAfter i w =
      if d.sender.hasFired w.token || d.busy i then d.turns else d.turns ++ [i] := by
  rw [turnsAfter, hs]

theorem turnsAfter_of_ne {d : Desk} {i : Nat} {w : Write} (hs : w.stage ≠ .waiting) :
    d.turnsAfter i w = d.turns := by
  unfold turnsAfter
  split
  · exact absurd ‹_› hs
  · rfl

theorem Inv.attempt {d : Desk} (h : d.Inv) {i : Nat} {w : Write} (hw : d.writes[i]? = some w) :
    (d.attempt i w).Inv := by
  obtain ⟨events, heq, _, ha⟩ := attempt_eq_put d i w
  rw [heq]
  apply h.put
  generalize d.sender.attempt (d.busy i) w = after at ha ⊢
  rcases after with ⟨stage, sender⟩
  dsimp only at ha ⊢
  have hacc := h.account i w hw
  unfold Account at hacc
  -- a write that was not over before says nothing of results
  have hopen : ∀ {stage stage' : Stage}, w.stage = stage → stage.isFinished = false →
      ∀ result, w.stage = .finished result → stage' = .finished result := by
    rintro stage stage' hs hf result hr
    rw [← hs, hr] at hf
    cases hf
  cases ha with
  | idles hs =>
    rw [hs] at hacc
    rw [turnsAfter_of_ne (by rw [hs]; rintro ⟨⟩)]
    refine ⟨hw, .inl rfl, id, .inl ⟨rfl, rfl⟩, absurd rfl, ?_, ?_⟩
    · intro result hr
      rw [← hs, hr]
    · unfold Account
      rw [events_put_nil]
      exact hacc
  | withdraws hs fired =>
    rw [turnsAfter_of_waiting hs, fired, Bool.true_or, if_pos rfl]
    refine ⟨hw, .inl rfl, id, .inl ⟨rfl, rfl⟩, absurd rfl, hopen hs rfl, ?_⟩
    unfold Account
    rw [events_put_nil, (h.fresh hw hs).1]
    apply Outcome.nothing
    rintro ⟨⟩
  | queues hs turn =>
    rw [turnsAfter_of_waiting hs, turn, Bool.or_true, if_pos rfl]
    refine ⟨hw, .inl rfl, id, .inl ⟨rfl, rfl⟩, absurd rfl, hopen hs rfl, ?_⟩
    unfold Account
    rw [events_put_nil]
    exact h.fresh hw hs
  | drops hs unfired turn gone =>
    rw [turnsAfter_of_waiting hs, unfired, turn, Bool.false_or, if_neg Bool.false_ne_true]
    refine ⟨hw, .inr ⟨rfl, hs⟩, id, .inr (not_sending_of_not_busy turn), absurd rfl,
      hopen hs rfl, ?_⟩
    unfold Account
    rw [events_put_nil, (h.fresh hw hs).1]
    exact .nothing fun _ => gone
  | refuses hs unfired turn frame usable =>
    rw [turnsAfter_of_waiting hs, unfired, turn, Bool.false_or, if_neg Bool.false_ne_true]
    refine ⟨hw, .inr ⟨rfl, hs⟩, id, .inr (not_sending_of_not_busy turn), absurd rfl,
      hopen hs rfl, ?_⟩
    unfold Account
    rw [events_put_nil, (h.fresh hw hs).1]
    apply Outcome.nothing
    rintro ⟨⟩
  | @begins bytes _ _ _ hs unfired turn frame usable step =>
    rw [turnsAfter_of_waiting hs, unfired, turn, Bool.false_or, if_neg Bool.false_ne_true]
    refine ⟨hw, .inr ⟨rfl, hs⟩, ?_, .inr (not_sending_of_not_busy turn),
      fun _ => ⟨usable, List.getLast?_concat⟩, hopen hs rfl, ?_⟩
    · rw [usable]
      rintro ⟨⟩
    · have hnothing : parts (d.events i) = ([], []) := by
        rw [(h.fresh hw hs).1]
        rfl
      rw [← List.nil_append bytes] at frame
      exact account_of_transmits frame hnothing usable List.getLast?_concat step
  | tears hs fired =>
    rw [hs] at hacc
    obtain ⟨usable, hlast, sent, hframe, hsent⟩ := hacc
    rw [turnsAfter_of_ne (by rw [hs]; rintro ⟨⟩)]
    refine ⟨hw, .inl rfl, fun _ => rfl, .inr (h.alone hw hs), absurd rfl, hopen hs rfl, ?_⟩
    unfold Account
    rw [events_put_nil]
    exact .last hframe (List.prefix_append _ _) hsent rfl
  | goesOn hs step =>
    rw [hs] at hacc
    obtain ⟨usable, hlast, sent, hframe, hsent⟩ := hacc
    rw [turnsAfter_of_ne (by rw [hs]; rintro ⟨⟩)]
    refine ⟨hw, .inl rfl, ?_, .inr (h.alone hw hs), fun _ => ⟨usable, hlast⟩, hopen hs rfl,
      account_of_transmits hframe hsent usable hlast step⟩
    rw [usable]
    rintro ⟨⟩

/-! ## All moves -/

/-- A sender with nothing to do. -/
theorem inv_of (s : Sender) : (of s).Inv where
  started i hi := by
    rcases hi with hi | hi
    · exact absurd rfl hi
    · cases hi
  once := List.nodup_nil
  account i w hw := by cases hw
  inTurn := rfl
  tornLast := List.Pairwise.nil

/-- One write more. -/
theorem Inv.start {d : Desk} (h : d.Inv) (token : Nat) (frame : Except WireError Bytes) :
    (d.step (.start token frame)).Inv where
  started i hi := by
    change i < (d.writes ++ [_]).length
    rw [List.length_append]
    exact Nat.lt_succ_of_lt (h.started i hi)
  once := h.once
  account i w hw := by
    change (d.writes ++ [_])[i]? = some w at hw
    rw [List.getElem?_append] at hw
    by_cases hlt : i < d.writes.length
    · rw [if_pos hlt] at hw
      exact h.account i w hw
    · rw [if_neg hlt] at hw
      have hw' := List.mem_of_getElem? hw
      rw [List.mem_singleton] at hw'
      subst hw'
      refine ⟨?_, ?_⟩
      · by_contra he
        exact hlt (h.started i (.inl he))
      · intro hm
        exact hlt (h.started i (.inr hm))
  inTurn := h.inTurn
  tornLast := by
    apply h.tornLast.imp
    intro i j hij
    apply hij.imp_left
    intro hc
    apply hc.imp_right
    rintro ⟨w, hw, h⟩
    refine ⟨w, ?_, h⟩
    change (d.writes ++ [_])[i]? = some w
    rw [List.getElem?_append_left (List.getElem?_eq_some_iff.1 hw).1, hw]

/-- Disposing waits for its turn, so it never comes between the bytes of a frame. -/
theorem Inv.dispose {d : Desk} (h : d.Inv) : (d.step .dispose).Inv := by
  unfold step
  dsimp only
  by_cases hbusy : d.writes.any (·.stage.hasTurn)
  · rw [if_pos hbusy]
    exact h
  rw [if_neg hbusy]
  refine ⟨h.started, h.once, ?_, h.inTurn, h.tornLast⟩
  intro i w hw
  have ha := h.account i w hw
  unfold Account at ha ⊢
  rcases hs : w.stage with _ | rest | result
  all_goals rw [hs] at ha; dsimp only at ha ⊢
  · exact ha
  · refine absurd (List.any_eq_true.2 ⟨w, List.mem_of_getElem? hw, ?_⟩) hbusy
    rw [hs]
    rfl
  · exact ha.mono fun _ => Sender.disposed_dispose _

/-- **One step of a run.** -/
theorem Inv.step {d : Desk} (h : d.Inv) (m : Move) : (d.step m).Inv := by
  rcases m with ⟨token, frame⟩ | i | token | _
  · exact h.start token frame
  · rcases hw : d.writes[i]? with _ | w
    · rw [step_poll_of_none hw]
      exact h
    · rw [step_poll hw]
      exact h.attempt hw
  · exact ⟨h.started, h.once, h.account, h.inTurn, h.tornLast⟩
  · exact h.dispose

/-- **A whole run.** -/
theorem Inv.run {d : Desk} (h : d.Inv) (moves : List Move) : (d.run moves).Inv := by
  -- by induction on the moves, with `Inv.step` for each of them
  induction moves generalizing d with
  | nil => exact h
  | cons m moves ih => exact ih (h.step m)

end Desk

end ProxyTunnel
