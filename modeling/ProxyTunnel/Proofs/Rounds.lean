/-
Writes that are joined are a run of the queue.

`Sender.join` attempts writes in rounds, in the order in which they were
started, and tells each of them only whether one ahead of it has the turn. That
is enough: whoever has the turn, all ahead of it are over (`Desk.Ahead`), so
nobody behind a write that waits can have it. The line is kept as well. In the
first round the writes ask for the turn in their order, so whenever nobody ahead
has the turn the write that is next is the first in line (`Queue.Orderly`).
Hence every round is a run of moves, and whatever is proved of runs holds of
joined writes (`Queue.run_of_join`), however many are joined one after the other.
-/
import ProxyTunnel.Proofs.Queue

set_option autoImplicit false

namespace ProxyTunnel

/-! ## Single attempts -/

namespace Sender

variable {w : Write} {s : Sender}

/-- Whether another has the turn matters only to a write that waits. -/
theorem attempt_congr {a b : Bool} (h : w.stage = .waiting → a = b) :
    s.attempt a w = s.attempt b w := by
  unfold attempt
  rcases hs : w.stage with _ | rest | result
  · rw [h hs]
  · rfl
  · rfl

/-- A write that has to wait does not get the turn. -/
theorem not_hasTurn_attempt (h : w.stage = .waiting) : (s.attempt true w).1.hasTurn = false := by
  unfold attempt
  rw [h]
  dsimp only
  by_cases hfired : s.hasFired w.token
  · rw [if_pos hfired]
    rfl
  · rw [if_neg hfired, if_pos rfl]
    rfl

end Sender

namespace Desk

/-! ## Writes in a line -/

/-- Of two writes in a line, the later has the turn only if the earlier is over. -/
def Ahead (a b : Write) : Prop := b.stage.hasTurn = true → a.stage.isFinished = true

/-- Writes in a line, the first of them attempted in this round. Unless one of
those has the turn now, they are all over. -/
structure Lined (pre ws : List Write) : Prop where
  ahead : (pre ++ ws).Pairwise Ahead
  begun : pre.any (·.stage.hasTurn) = false → ∀ p ∈ pre, p.stage.isFinished = true

theorem hasTurn_of_isFinished {stage : Stage} (h : stage.isFinished = true) :
    stage.hasTurn = false := by
  cases stage with
  | finished => rfl
  | waiting | sending => cases h

/-- Behind a write that waits nobody has the turn. -/
theorem Lined.busy_eq {pre ws : List Write} {w : Write} (h : Lined pre (w :: ws)) {d : Desk}
    (hw : d.writes = pre ++ w :: ws) (hwait : w.stage = .waiting) :
    d.busy pre.length = pre.any (·.stage.hasTurn) := by
  have hrest : ws.any (·.stage.hasTurn) = false := by
    rw [List.any_eq_false]
    intro b hb hturn
    have hahead := (List.pairwise_append.1 h.ahead).2.1
    have hover := (List.pairwise_cons.1 hahead).1 b hb hturn
    rw [hwait] at hover
    cases hover
  have herase : (pre ++ w :: ws).eraseIdx pre.length = pre ++ ws := by
    rw [List.eraseIdx_append_of_length_le (Nat.le_refl _), Nat.sub_self, List.eraseIdx_cons_zero]
  rw [busy, hw, herase, List.any_append, hrest, Bool.or_false]

/-- An attempt at the next write of a line leaves a line. -/
theorem Lined.attempt {pre ws : List Write} {w : Write} (h : Lined pre (w :: ws)) (s : Sender) :
    Lined (pre ++ [{ w with stage := (s.attempt (pre.any (·.stage.hasTurn)) w).1 }]) ws := by
  obtain ⟨hpre, htail, hacross⟩ := List.pairwise_append.1 h.ahead
  obtain ⟨hw, hws⟩ := List.pairwise_cons.1 htail
  refine ⟨?_, ?_⟩
  · rw [List.append_assoc, List.singleton_append, List.pairwise_append, List.pairwise_cons]
    refine ⟨hpre, ⟨?_, hws⟩, ?_⟩
    · intro b hb hturn
      exact Sender.isFinished_attempt (hw b hb hturn)
    · intro p hp b hb
      rcases List.mem_cons.1 hb with rfl | hb
      · intro hturn
        change (s.attempt (pre.any (·.stage.hasTurn)) w).1.hasTurn = true at hturn
        -- a write gets the turn from one that had it, or from nobody
        rcases hs : w.stage with _ | rest | result
        · refine h.begun ?_ p hp
          by_contra hbusy
          rw [Bool.not_eq_false] at hbusy
          rw [hbusy] at hturn
          exact Bool.false_ne_true ((Sender.not_hasTurn_attempt hs).symm.trans hturn)
        · exact hacross p hp w List.mem_cons_self (by rw [hs]; rfl)
        · have hover : w.stage.isFinished = true := by
            rw [hs]
            rfl
          have hnone : (s.attempt (pre.any (·.stage.hasTurn)) w).1.hasTurn = false :=
            hasTurn_of_isFinished (Sender.isFinished_attempt hover)
          exact absurd (hnone.symm.trans hturn) Bool.false_ne_true
      · exact hacross p hp b (List.mem_cons_of_mem w hb)
  · intro hnone p hp
    rw [List.any_append, Bool.or_eq_false_iff] at hnone
    obtain ⟨hpre', hlast⟩ := hnone
    rcases List.mem_append.1 hp with hp | hp
    · exact h.begun hpre' p hp
    · obtain rfl := List.mem_singleton.1 hp
      rw [List.any_cons, List.any_nil, Bool.or_false, hpre'] at hlast
      rw [hpre']
      -- with nobody's turn in the way, whoever is not over has the turn
      by_contra hopen
      rw [Bool.not_eq_true] at hopen
      have hturn := (Sender.stepsLeft_attempt_lt w s hopen).1
      exact Bool.false_ne_true (hlast.symm.trans hturn)

end Desk

namespace Queue

/-! ## The line of a round -/

/-- A write that has asked for the turn or is over. -/
def Prompt (q : Queue) (i : Nat) : Prop :=
  ∀ w, q.desk.writes[i]? = some w → i ∈ q.asked ∨ w.stage.isFinished = true

/-- The writes have asked for the turn in their order, up to the one that is
attempted next. -/
structure Orderly (q : Queue) (next : Nat) : Prop where
  sorted : q.asked.Pairwise (· < ·)
  ahead : ∀ i < next, q.Prompt i
  behind : ∀ j ∈ q.asked, ∀ i < j, q.Prompt i

variable {q : Queue} {i : Nat} {w : Write}

theorem asked_subset_ask (q : Queue) (i : Nat) : q.asked ⊆ (q.ask i).asked := by
  unfold ask
  split
  · exact List.Subset.refl _
  · exact List.subset_append_left _ _

theorem Prompt.ask {j : Nat} (h : q.Prompt j) (i : Nat) : (q.ask i).Prompt j := by
  intro w hw
  rw [desk_ask] at hw
  exact (h w hw).imp_left (asked_subset_ask q i ·)

theorem Prompt.attempt {j : Nat} (h : q.Prompt j) (hw : q.desk.writes[i]? = some w) :
    (q.attempt i w).Prompt j := by
  intro wj hwj
  by_cases hji : j = i
  · subst hji
    refine (h w hw).imp_right ?_
    intro hover
    cases (Desk.writes_attempt_self hw).symm.trans hwj
    exact Sender.isFinished_attempt hover
  · exact h wj ((Desk.writes_attempt_of_ne q.desk hji w).symm.trans hwj)

/-- A write that waits and comes next asks behind all others. -/
theorem Orderly.ask (ho : q.Orderly i) (h : q.Inv) (hw : q.desk.writes[i]? = some w)
    (hs : w.stage = .waiting) : (q.ask i).Orderly (i + 1) := by
  have hopen : w.stage.isFinished ≠ true := by
    rw [hs]
    exact Bool.false_ne_true
  have hself : i ∈ (q.ask i).asked := (h.ask hw hs).line.subset (mem_line_ask q i)
  refine ⟨?_, ?_, ?_⟩
  · unfold Queue.ask
    split
    · exact ho.sorted
    · rename_i hi
      have hnew : i ∉ q.asked := fun hm => hi (h.stays i w hw (by simpa using hopen) hm)
      refine List.pairwise_append.2 ⟨ho.sorted, List.pairwise_singleton _ _, ?_⟩
      intro j hj k hk
      obtain rfl := List.mem_singleton.1 hk
      -- had a later one asked, this one would have done so before it
      rcases Nat.lt_trichotomy j k with hlt | heq | hgt
      · exact hlt
      · exact absurd (heq ▸ hj) hnew
      · exact absurd ((ho.behind j hj k hgt w hw).resolve_right hopen) hnew
  · intro j hj
    rcases Nat.lt_succ_iff_lt_or_eq.1 hj with hlt | rfl
    · exact (ho.ahead j hlt).ask i
    · exact fun _ _ => .inl hself
  · intro j hj k hk
    by_cases hji : j = i
    · exact (ho.ahead k (hji ▸ hk)).ask i
    · refine (ho.behind j ?_ k hk).ask i
      unfold Queue.ask at hj
      split at hj
      · exact hj
      · exact (List.mem_append.1 hj).resolve_right fun hm => hji (List.mem_singleton.1 hm)

theorem Orderly.attempt {next : Nat} (ho : q.Orderly next) (hw : q.desk.writes[i]? = some w) :
    (q.attempt i w).Orderly next :=
  ⟨ho.sorted, fun j hj => (ho.ahead j hj).attempt hw, fun j hj k hk =>
    (ho.behind j hj k hk).attempt hw⟩

theorem Orderly.next (ho : q.Orderly i) (h : q.Prompt i) : q.Orderly (i + 1) := by
  refine ⟨ho.sorted, ?_, ho.behind⟩
  intro j hj
  rcases Nat.lt_succ_iff_lt_or_eq.1 hj with hlt | rfl
  · exact ho.ahead j hlt
  · exact h

theorem Orderly.mono {next : Nat} (ho : q.Orderly next) (hle : i ≤ next) : q.Orderly i :=
  ⟨ho.sorted, fun j hj => ho.ahead j (Nat.lt_of_lt_of_le hj hle), ho.behind⟩

/-- The write that comes next is the first in line if all ahead of it are over. -/
theorem Orderly.first (ho : q.Orderly i) (h : q.Inv) (hw : q.desk.writes[i]? = some w)
    (hs : w.stage = .waiting) (hover : ∀ j < i, ∀ wj, q.desk.writes[j]? = some wj →
      wj.stage.isFinished = true) : (q.ask i).line.head? = some i := by
  have hask := h.ask hw hs
  have hsorted := (ho.ask h hw hs).sorted.sublist hask.line
  have hmem := mem_line_ask q i
  rcases hline : (q.ask i).line with _ | ⟨j, tail⟩
  · rw [hline] at hmem
    cases hmem
  rw [hline] at hsorted hmem
  refine congrArg some ?_
  rcases List.mem_cons.1 hmem with heq | htail
  · exact heq.symm
  · -- the first in line stands ahead, and so it would be over
    have hlt : j < i := (List.pairwise_cons.1 hsorted).1 i htail
    obtain ⟨wj, hwj, hopen⟩ := hask.unfinished j (hline ▸ List.mem_cons_self)
    rw [desk_ask] at hwj
    exact absurd (hopen.symm.trans (hover j hlt wj hwj)) Bool.false_ne_true

/-! ## Rounds -/

open Desk

/-- The next write of a round is resumed: what the round does with it, the queue
does. -/
theorem step_of_round (h : q.Inv) {pre ws : List Write} (hl : Lined pre (w :: ws))
    (ho : q.Orderly pre.length) (hw : q.desk.writes = pre ++ w :: ws) :
    (q.step (.poll pre.length)).desk.writes = pre ++
        { w with stage := (q.desk.sender.attempt (pre.any (·.stage.hasTurn)) w).1 } :: ws ∧
      (q.step (.poll pre.length)).desk.sender =
        (q.desk.sender.attempt (pre.any (·.stage.hasTurn)) w).2 ∧
      (q.step (.poll pre.length)).Orderly (pre.length + 1) := by
  have hget : q.desk.writes[pre.length]? = some w := by
    rw [hw, List.getElem?_append_right (Nat.le_refl _), Nat.sub_self]
    rfl
  have hbusy : q.desk.sender.attempt (q.desk.busy pre.length) w =
      q.desk.sender.attempt (pre.any (·.stage.hasTurn)) w := Sender.attempt_congr (hl.busy_eq hw)
  have hset : ∀ stage, q.desk.writes.set pre.length { w with stage } =
      pre ++ { w with stage } :: ws := by
    intro stage
    rw [hw, List.set_append_right _ _ (Nat.le_refl _), Nat.sub_self]
    rfl
  have hattempt : (q.desk.attempt pre.length w).writes = pre ++
        { w with stage := (q.desk.sender.attempt (pre.any (·.stage.hasTurn)) w).1 } :: ws ∧
      (q.desk.attempt pre.length w).sender =
        (q.desk.sender.attempt (pre.any (·.stage.hasTurn)) w).2 := by
    rw [← hbusy]
    exact ⟨hset _, rfl⟩
  rw [step_poll hget]
  obtain ⟨hs, hp⟩ | ⟨hs, hfirst, hp⟩ | ⟨hs, unfired, hfirst, hp⟩ := q.poll_cases pre.length w
  all_goals rw [hp]
  · refine ⟨hattempt.1, hattempt.2, (ho.attempt hget).next ?_⟩
    intro w' hw'
    cases (Desk.writes_attempt_self hget).symm.trans hw'
    rcases hstage : w.stage with _ | rest | result
    · right
      change (q.desk.sender.attempt _ w).1.isFinished = true
      rw [Sender.attempt, hstage]
      dsimp only
      rw [if_pos (hs hstage)]
      rfl
    · left
      have hmem := List.mem_of_head? (h.first _ w rest hget hstage)
      exact h.line.subset hmem
    · right
      refine Sender.isFinished_attempt ?_
      rw [hstage]
      rfl
  · have hdesk : ((q.ask pre.length).attempt pre.length w).desk = q.desk.attempt pre.length w := by
      rw [attempt, desk_ask]
    rw [hdesk]
    refine ⟨hattempt.1, hattempt.2, (ho.ask h hget hs).attempt ?_⟩
    rw [desk_ask]
    exact hget
  · -- a write that is not let through has the one in turn ahead of it
    have hturn : pre.any (·.stage.hasTurn) = true := by
      by_contra hnone
      rw [Bool.not_eq_true] at hnone
      refine hfirst (ho.first h hget hs ?_)
      intro j hj wj hwj
      rw [hw, List.getElem?_append_left hj] at hwj
      exact hl.begun hnone wj (List.mem_of_getElem? hwj)
    have hwait : q.desk.sender.attempt true w = (.waiting, q.desk.sender) := by
      rw [Sender.attempt, hs]
      dsimp only
      rw [unfired, if_neg Bool.false_ne_true, if_pos rfl]
    rw [desk_ask, hturn, hwait, ← hs]
    exact ⟨hw, rfl, ho.ask h hget hs⟩

/-- A round attempts the writes of a line one after the other. -/
theorem run_of_round (h : q.Inv) {pre ws : List Write} (hl : Lined pre ws)
    (ho : q.Orderly pre.length) (hw : q.desk.writes = pre ++ ws) :
    ∃ moves, (q.run moves).desk.writes = pre ++
        (Sender.round (pre.any (·.stage.hasTurn)) ws q.desk.sender).1 ∧
      (q.run moves).desk.sender =
        (Sender.round (pre.any (·.stage.hasTurn)) ws q.desk.sender).2 ∧
      (pre ++ (Sender.round (pre.any (·.stage.hasTurn)) ws q.desk.sender).1).Pairwise Ahead ∧
      (q.run moves).Orderly (pre.length + ws.length) := by
  induction ws generalizing pre q with
  | nil => exact ⟨[], hw, rfl, hl.ahead, ho⟩
  | cons w ws ih =>
    obtain ⟨hwrites, hsender, horderly⟩ := step_of_round h hl ho hw
    have hlined := hl.attempt q.desk.sender
    rcases hafter : q.desk.sender.attempt (pre.any (·.stage.hasTurn)) w with ⟨stage, s⟩
    rw [hafter] at hwrites hsender hlined
    dsimp only at hwrites hsender hlined
    have hbusy : (pre ++ [{ w with stage }]).any (·.stage.hasTurn) =
        (pre.any (·.stage.hasTurn) || stage.hasTurn) := by
      rw [List.any_append, List.any_cons, List.any_nil, Bool.or_false]
    have hlength : (pre ++ [{ w with stage }]).length = pre.length + 1 := by
      rw [List.length_append, List.length_singleton]
    rw [← List.singleton_append, ← List.append_assoc] at hwrites
    obtain ⟨moves, hwrites', hsender', hahead, horderly'⟩ :=
      ih (h.step _) hlined (hlength ▸ horderly) hwrites
    rw [hsender, hbusy] at hwrites' hsender' hahead
    rw [List.append_assoc, List.singleton_append] at hwrites' hahead
    rw [hlength, Nat.add_assoc, Nat.add_comm 1] at horderly'
    refine ⟨.poll pre.length :: moves, ?_⟩
    unfold Sender.round
    rw [hafter]
    exact ⟨hwrites', hsender', hahead, horderly'⟩

/-! ## Joined writes -/

/-- Writes that have not begun can be started. -/
theorem run_of_start (q : Queue) {ws : List Write} (h : ∀ w ∈ ws, w.stage = .waiting) :
    ∃ moves, q.run moves = { q with desk := { q.desk with writes := q.desk.writes ++ ws } } := by
  induction ws generalizing q with
  | nil => exact ⟨[], by rw [List.append_nil]; rfl⟩
  | cons w ws ih =>
    have hnew : Sender.newWrite w.token w.frame = w := by
      rw [Sender.newWrite, ← h w List.mem_cons_self]
    obtain ⟨moves, hmoves⟩ := ih (q.step (.start w.token w.frame)) fun b hb =>
      h b (List.mem_cons_of_mem w hb)
    refine ⟨.start w.token w.frame :: moves, hmoves.trans ?_⟩
    rw [step, Desk.step, hnew, List.append_assoc]
    · rfl
    · rintro i ⟨⟩

section

variable {done : List Write}

theorem not_any_hasTurn (hd : ∀ w ∈ done, w.stage.isFinished = true) :
    done.any (·.stage.hasTurn) = false := by
  rw [List.any_eq_false]
  intro w hw hturn
  have hnone := hasTurn_of_isFinished (hd w hw)
  exact Bool.false_ne_true (hnone.symm.trans hturn)

/-- Rounds of writes, behind others that are over, until all of them are. -/
theorem run_of_rounds (hd : ∀ w ∈ done, w.stage.isFinished = true) (start : List Write × Sender)
    (h : q.Inv) (hw : q.desk.writes = done ++ start.1) (hs : q.desk.sender = start.2)
    (hahead : (done ++ start.1).Pairwise Ahead) (ho : q.Orderly done.length) :
    ∃ moves, (q.run moves).desk.writes = done ++ (Sender.sendingAll.run start).2.1 ∧
      (q.run moves).desk.sender = (Sender.sendingAll.run start).2.2 ∧
      (∀ w ∈ (Sender.sendingAll.run start).2.1, w.stage.isFinished = true) ∧
      (q.run moves).asked.Pairwise (· < ·) := by
  -- round by round; each leaves a line, which is all that the next one needs
  have key := Sender.sendingAll.await_rec (fun _ => none)
    (motive := fun start after => ∀ q : Queue, q.Inv → q.desk.writes = done ++ start.1 →
      q.desk.sender = start.2 → (done ++ start.1).Pairwise Ahead → q.Orderly done.length →
      ∃ moves, (q.run moves).desk.writes = done ++ after.2.1 ∧
        (q.run moves).desk.sender = after.2.2 ∧ (∀ w ∈ after.2.1, w.stage.isFinished = true) ∧
        (q.run moves).asked.Pairwise (· < ·))
    ?_ ?_ ?_ start
  · exact key q h hw hs hahead ho
  · rintro ⟨ws, s⟩ ⟨⟩ ⟨after, s'⟩ hround q h hw hs hahead ho
    obtain ⟨moves, hwrites, hsender, _, ho'⟩ := run_of_round h ⟨hahead, fun _ => hd⟩ ho hw
    obtain ⟨hready, hafter⟩ := Prod.ext_iff.1 hround
    change Sender.round false ws s = (after, s') at hafter
    rw [not_any_hasTurn hd, hs, hafter] at hwrites hsender
    refine ⟨moves, hwrites, hsender, ?_, ho'.sorted⟩
    change (if (Sender.round false ws s).1.all (·.stage.isFinished) then
      Poll.ready () else .pending) = .ready () at hready
    rw [hafter] at hready
    by_cases hall : after.all (·.stage.isFinished) = true
    · exact List.all_eq_true.1 hall
    · rw [if_neg hall] at hready
      cases hready
  · -- joined writes never give up
    intro start value after _ hstop
    cases hstop
  · rintro ⟨ws, s⟩ ⟨next, s'⟩ after hround _ ih q h hw hs hahead ho
    obtain ⟨moves, hwrites, hsender, hahead', ho'⟩ := run_of_round h ⟨hahead, fun _ => hd⟩ ho hw
    have hafter : Sender.round false ws s = (next, s') := (Prod.ext_iff.1 hround).2
    rw [not_any_hasTurn hd, hs, hafter] at hwrites hsender hahead'
    obtain ⟨more, hmore⟩ := ih (q.run moves) (h.run moves) hwrites hsender hahead'
      (ho'.mono (Nat.le_add_right _ _))
    refine ⟨moves ++ more, ?_⟩
    rw [run_append]
    exact hmore

end

/-- **Joined writes are a run**, behind others that are over. They are over
afterwards, so the next ones can be joined, and they asked for their turns in
the order in which they were joined. -/
theorem run_of_join (h : q.Inv) (hd : ∀ w ∈ q.desk.writes, w.stage.isFinished = true)
    (hsorted : q.asked.Pairwise (· < ·)) {ws : List Write} (hnew : ∀ w ∈ ws, w.stage = .waiting) :
    ∃ moves joined, (q.run moves).desk.writes = q.desk.writes ++ joined ∧
      (q.run moves).desk.sender = (q.desk.sender.join ws).2 ∧
      joined.map (·.stage.result) = (q.desk.sender.join ws).1 ∧
      (∀ w ∈ joined, w.stage.isFinished = true) ∧ (q.run moves).asked.Pairwise (· < ·) := by
  obtain ⟨first, hfirst⟩ := run_of_start q hnew
  have hahead : (q.desk.writes ++ ws).Pairwise Ahead := by
    -- nobody has begun or is still busy, so nobody has the turn
    apply List.pairwise_of_forall_mem_list
    intro a _ b hb hturn
    rcases List.mem_append.1 hb with hb | hb
    · have hnone := hasTurn_of_isFinished (hd b hb)
      exact absurd (hnone.symm.trans hturn) Bool.false_ne_true
    · rw [hnew b hb] at hturn
      cases hturn
  have hwrites : (q.run first).desk.writes = q.desk.writes ++ ws := by rw [hfirst]
  have hsender : (q.run first).desk.sender = q.desk.sender := by rw [hfirst]
  have hprompt : ∀ i < q.desk.writes.length, (q.run first).Prompt i := by
    intro i hi w hw
    rw [hwrites, List.getElem?_append_left hi] at hw
    exact .inr (hd w (List.mem_of_getElem? hw))
  have horderly : (q.run first).Orderly q.desk.writes.length := by
    have hasked : (q.run first).asked = q.asked := by rw [hfirst]
    refine ⟨hasked ▸ hsorted, hprompt, ?_⟩
    intro j hj i hi
    rw [hasked] at hj
    exact hprompt i (Nat.lt_trans hi (h.started j hj))
  obtain ⟨moves, hwrites', hsender', hall, hsorted'⟩ :=
    run_of_rounds hd (ws, q.desk.sender) (h.run first) hwrites hsender hahead horderly
  refine ⟨first ++ moves, _, ?_, ?_, rfl, hall, ?_⟩
  all_goals rw [run_append]
  · exact hwrites'
  · exact hsender'
  · exact hsorted'

end Queue

end ProxyTunnel
