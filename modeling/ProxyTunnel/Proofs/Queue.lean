/-
First come, first served.

On a `Desk` whoever happens to be attempted while nobody has the turn takes it.
The lock of a sender is fairer: a write that is attempted and cannot have the
turn stands in line for it, and only the first in line is let through. A write
whose token fires while it waits leaves the line. `Queue` adds that line to the
desk, and a list of all writes in the order in which they asked for the turn.

Every run of a queue is a run of its desk, so all that is known of desks holds
of queues. What the line adds is the order: writes get their turns in the order
in which they asked (`Queue.Inv.turns_sublist`), and those in line will get
theirs in the order in which they stand (`Queue.Inv.order`).
-/
import ProxyTunnel.Proofs.Returned

set_option autoImplicit false

namespace ProxyTunnel

/-- A desk whose writes stand in line for the turn. -/
structure Queue where
  desk : Desk
  /-- The writes that have asked for the turn and are not over. The first of them
  has the turn, or may take it. -/
  line : List Nat
  /-- The writes that have asked for the turn, in that order. -/
  asked : List Nat

namespace Queue

/-! ## Moves -/

/-- A sender with nothing to do. -/
def of (s : Sender) : Queue := ⟨.of s, [], []⟩

/-- A write that asks for the turn stands last in line, unless it stands there
already. -/
def ask (q : Queue) (i : Nat) : Queue :=
  if i ∈ q.line then q else { q with line := q.line ++ [i], asked := q.asked ++ [i] }

/-- An attempt at a write. One that is over leaves the line. -/
def attempt (q : Queue) (i : Nat) (w : Write) : Queue :=
  { q with
    desk := q.desk.attempt i w
    line := if (q.desk.sender.attempt (q.desk.busy i) w).1.isFinished then q.line.erase i
      else q.line }

/-- The queue after a write was resumed. -/
def poll (q : Queue) (i : Nat) (w : Write) : Queue :=
  match w.stage with
  | .waiting =>
    -- the token comes before the turn
    if q.desk.sender.hasFired w.token then q.attempt i w
    else if (q.ask i).line.head? = some i then (q.ask i).attempt i w
    else q.ask i
  | _ => q.attempt i w

/-- The queue after a move. -/
def step (q : Queue) : Move → Queue
  | .poll i => match q.desk.writes[i]? with
    | some w => q.poll i w
    | none => q
  | m => { q with desk := q.desk.step m }

/-- The queue after a run. -/
def run (q : Queue) (moves : List Move) : Queue := moves.foldl step q

theorem step_poll {q : Queue} {i : Nat} {w : Write} (hw : q.desk.writes[i]? = some w) :
    q.step (.poll i) = q.poll i w := by
  rw [step, hw]

theorem step_poll_of_none {q : Queue} {i : Nat} (hw : q.desk.writes[i]? = none) :
    q.step (.poll i) = q := by
  rw [step, hw]

theorem run_append (q : Queue) (a b : List Move) : q.run (a ++ b) = (q.run a).run b :=
  List.foldl_append

@[simp] theorem desk_ask (q : Queue) (i : Nat) : (q.ask i).desk = q.desk := by
  unfold ask
  split <;> rfl

/-- What may come of a write that is resumed: it is attempted, as the first in
line if it waits, or it only stands in line. -/
theorem poll_cases (q : Queue) (i : Nat) (w : Write) :
    ((w.stage = .waiting → q.desk.sender.hasFired w.token = true) ∧ q.poll i w = q.attempt i w) ∨
    (w.stage = .waiting ∧ (q.ask i).line.head? = some i ∧ q.poll i w = (q.ask i).attempt i w) ∨
    (w.stage = .waiting ∧ q.desk.sender.hasFired w.token = false ∧
      (q.ask i).line.head? ≠ some i ∧ q.poll i w = q.ask i) := by
  unfold poll
  rcases hs : w.stage with _ | rest | result
  all_goals dsimp only
  · by_cases hfired : q.desk.sender.hasFired w.token
    · rw [if_pos hfired]
      exact .inl ⟨fun _ => hfired, rfl⟩
    rw [if_neg hfired]
    by_cases hfirst : (q.ask i).line.head? = some i
    · rw [if_pos hfirst]
      exact .inr (.inl ⟨rfl, hfirst, rfl⟩)
    · rw [if_neg hfirst]
      exact .inr (.inr ⟨rfl, Bool.not_eq_true _ ▸ hfired, hfirst, rfl⟩)
  · exact .inl ⟨nofun, rfl⟩
  · exact .inl ⟨nofun, rfl⟩

/-! ## A run of a queue is a run of its desk -/

theorem desk_step (q : Queue) (m : Move) :
    (q.step m).desk = q.desk ∧ (∃ i, m = .poll i) ∨ (q.step m).desk = q.desk.step m := by
  rcases m with ⟨token, frame⟩ | i | token | _
  · exact .inr rfl
  · rcases hw : q.desk.writes[i]? with _ | w
    · rw [step_poll_of_none hw, Desk.step_poll_of_none hw]
      exact .inr rfl
    rw [step_poll hw, Desk.step_poll hw]
    obtain ⟨_, h⟩ | ⟨_, _, h⟩ | ⟨_, _, _, h⟩ := q.poll_cases i w
    all_goals rw [h]
    · exact .inr rfl
    · refine .inr ?_
      rw [attempt, desk_ask]
    · exact .inl ⟨desk_ask q i, i, rfl⟩
  · exact .inr rfl
  · exact .inr rfl

theorem desk_run (q : Queue) (moves : List Move) :
    ∃ moves', (q.run moves).desk = q.desk.run moves' := by
  induction moves generalizing q with
  | nil => exact ⟨[], rfl⟩
  | cons m moves ih =>
    obtain ⟨moves', h⟩ := ih (q.step m)
    change ((q.step m).run moves).desk = _ at h
    rcases q.desk_step m with ⟨hm, _⟩ | hm
    all_goals rw [hm] at h
    · exact ⟨moves', h⟩
    · exact ⟨m :: moves', h⟩

/-! ## The order of turns -/

/-- Those in line who have not had their turn. -/
def pending (q : Queue) : List Nat := q.line.filter (· ∉ q.desk.turns)

/-- What every run preserves. -/
structure Inv (q : Queue) : Prop where
  desk : q.desk.Inv
  once : q.asked.Nodup
  started : ∀ i ∈ q.asked, i < q.desk.writes.length
  line : q.line.Sublist q.asked
  unfinished : ∀ i ∈ q.line, ∃ w, q.desk.writes[i]? = some w ∧ w.stage.isFinished = false
  stays : ∀ i w, q.desk.writes[i]? = some w → w.stage.isFinished = false → i ∈ q.asked →
    i ∈ q.line
  first : ∀ i w rest, q.desk.writes[i]? = some w → w.stage = .sending rest →
    q.line.head? = some i
  order : (q.desk.turns ++ q.pending).Sublist q.asked

theorem Inv.turns_sublist {q : Queue} (h : q.Inv) : q.desk.turns.Sublist q.asked :=
  (List.sublist_append_left _ _).trans h.order

theorem inv_of (s : Sender) : (of s).Inv where
  desk := Desk.inv_of s
  once := List.nodup_nil
  started i hi := by cases hi
  line := List.Sublist.refl _
  unfinished i hi := by cases hi
  stays i w hw := by cases hw
  first i w rest hw := by cases hw
  order := List.Sublist.refl _

section

variable {q : Queue} {i : Nat} {w : Write}

/-- Standing in line. -/
theorem Inv.ask (h : q.Inv) (hw : q.desk.writes[i]? = some w) (hs : w.stage = .waiting) :
    (q.ask i).Inv := by
  have hopen : w.stage.isFinished = false := by
    rw [hs]
    rfl
  unfold Queue.ask
  by_cases hi : i ∈ q.line
  · rw [if_pos hi]
    exact h
  rw [if_neg hi]
  have hnew : i ∉ q.asked := fun hm => hi (h.stays i w hw hopen hm)
  refine ⟨h.desk, ?_, ?_, h.line.append (List.Sublist.refl _), ?_, ?_, ?_, ?_⟩
  · rw [List.nodup_append]
    refine ⟨h.once, List.nodup_singleton i, ?_⟩
    rintro k hk j hj rfl
    exact hnew (List.mem_singleton.1 hj ▸ hk)
  · intro j hj
    rcases List.mem_append.1 hj with hj | hj
    · exact h.started j hj
    · rw [List.mem_singleton.1 hj]
      exact (List.getElem?_eq_some_iff.1 hw).1
  · intro j hj
    rcases List.mem_append.1 hj with hj | hj
    · exact h.unfinished j hj
    · rw [List.mem_singleton.1 hj]
      exact ⟨w, hw, hopen⟩
  · intro j wj hwj hf hj
    rcases List.mem_append.1 hj with hj | hj
    · exact List.mem_append_left _ (h.stays j wj hwj hf hj)
    · exact List.mem_append_right _ hj
  · intro j wj rest hwj hsj
    have hfirst := h.first j wj rest hwj hsj
    rw [List.head?_append, hfirst]
    rfl
  · -- whoever stands last has not had a turn
    have hfresh : i ∉ q.desk.turns := fun hm => hnew (h.turns_sublist.subset hm)
    have hlast : [i].filter (· ∉ q.desk.turns) = [i] := by
      rw [List.filter_singleton]
      simp [hfresh]
    change (q.desk.turns ++ (q.line ++ [i]).filter (· ∉ q.desk.turns)).Sublist _
    rw [List.filter_append, hlast, ← List.append_assoc]
    exact h.order.append (List.Sublist.refl _)

/-- Once in line, a write has a place in it. -/
theorem mem_line_ask (q : Queue) (i : Nat) : i ∈ (q.ask i).line := by
  unfold Queue.ask
  split
  · assumption
  · exact List.mem_append_right _ (List.mem_singleton_self i)

theorem line_attempt_sublist (q : Queue) (i : Nat) (w : Write) :
    (q.attempt i w).line.Sublist q.line := by
  unfold Queue.attempt
  dsimp only
  split
  · exact List.erase_sublist
  · exact List.Sublist.refl _

/-- The first in line takes its turn, and the rest of the line stays behind it. -/
theorem Inv.order_attempt (h : q.Inv) (hw : q.desk.writes[i]? = some w)
    (hfirst : w.stage = .waiting → q.desk.sender.hasFired w.token = false →
      q.line.head? = some i) :
    ((q.attempt i w).desk.turns ++ (q.attempt i w).pending).Sublist q.asked := by
  have hsub := line_attempt_sublist q i w
  change (q.desk.turnsAfter i w ++
    (q.attempt i w).line.filter (· ∉ q.desk.turnsAfter i w)).Sublist q.asked
  have hsame : q.desk.turnsAfter i w = q.desk.turns →
      (q.desk.turnsAfter i w ++
        (q.attempt i w).line.filter (· ∉ q.desk.turnsAfter i w)).Sublist q.asked := by
    intro ht
    rw [ht]
    exact ((hsub.filter _).append_left _).trans h.order
  by_cases hs : w.stage = .waiting
  · by_cases hwaits : (q.desk.sender.hasFired w.token || q.desk.busy i) = true
    · exact hsame (by rw [Desk.turnsAfter_of_waiting hs, if_pos hwaits])
    rw [Desk.turnsAfter_of_waiting hs, if_neg hwaits]
    rw [Bool.not_eq_true, Bool.or_eq_false_iff] at hwaits
    obtain ⟨tail, htail⟩ := List.head?_eq_some_iff.1 (hfirst hs hwaits.1)
    have hfresh := (h.desk.fresh hw hs).2
    have horder := h.order
    rw [pending, htail, List.filter_cons_of_pos (by simpa using hfresh)] at horder
    refine List.Sublist.trans ?_ horder
    rw [List.append_assoc]
    refine ((?_ : List.Sublist _ _).cons_cons i).append_left _
    -- the write itself is not pending any more
    rw [htail] at hsub
    have hrest := hsub.filter (· ∉ q.desk.turns ++ [i])
    rw [List.filter_cons_of_neg (by simp)] at hrest
    refine hrest.trans (List.monotone_filter_right tail ?_)
    intro j hj
    simp only [List.mem_append, not_or, decide_eq_true_eq] at hj ⊢
    exact hj.1
  · exact hsame (Desk.turnsAfter_of_ne hs)

/-- A write that sends has sent before, or is let through now. -/
theorem sending_cases {rest : Bytes} {busy : Bool} {s : Sender}
    (h : (s.attempt busy w).1 = .sending rest) :
    (∃ left, w.stage = .sending left) ∨ w.stage = .waiting ∧ s.hasFired w.token = false := by
  obtain ⟨_, _, ha⟩ := Sender.attempts_attempt busy w s
  generalize s.attempt busy w = after at h ha
  rcases after with ⟨stage, s'⟩
  dsimp only at h ha
  subst h
  cases ha with
  | begins hs unfired => exact .inr ⟨hs, unfired⟩
  | goesOn hs => exact .inl ⟨_, hs⟩

/-- An attempt, with the first in line alone let through. -/
theorem Inv.attempt (h : q.Inv) (hw : q.desk.writes[i]? = some w)
    (hfirst : w.stage = .waiting → q.desk.sender.hasFired w.token = false →
      q.line.head? = some i) : (q.attempt i w).Inv := by
  obtain ⟨stage, hstage⟩ : ∃ stage, (q.desk.sender.attempt (q.desk.busy i) w).1 = stage := ⟨_, rfl⟩
  have hself := Desk.writes_attempt_self hw
  have hother : ∀ j, j ≠ i → (q.attempt i w).desk.writes[j]? = q.desk.writes[j]? := fun j hj =>
    Desk.writes_attempt_of_ne q.desk hj w
  have hline : (q.attempt i w).line = if stage.isFinished then q.line.erase i else q.line := by
    rw [← hstage]
    rfl
  rw [hstage] at hself
  have hsub := line_attempt_sublist q i w
  refine ⟨h.desk.attempt hw, h.once, ?_, hsub.trans h.line, ?_, ?_, ?_, h.order_attempt hw hfirst⟩
  · intro j hj
    change j < (q.desk.writes.set i _).length
    rw [List.length_set]
    exact h.started j hj
  · intro j hj
    by_cases hji : j = i
    · subst hji
      refine ⟨_, hself, ?_⟩
      by_contra hover
      rw [Bool.not_eq_false] at hover
      rw [hline, if_pos hover] at hj
      exact (h.once.sublist h.line).not_mem_erase hj
    · rw [hother j hji]
      exact h.unfinished j (hsub.subset hj)
  · intro j wj hwj hopen hj
    rw [hline]
    by_cases hji : j = i
    · subst hji
      cases hself.symm.trans hwj
      dsimp only at hopen
      have hbefore : w.stage.isFinished = false := by
        by_contra hover
        rw [Bool.not_eq_false] at hover
        have hstays : (q.desk.sender.attempt (q.desk.busy j) w).1.isFinished = true :=
          Sender.isFinished_attempt hover
        rw [hstage] at hstays
        exact Bool.false_ne_true (hopen.symm.trans hstays)
      rw [hopen, if_neg Bool.false_ne_true]
      exact h.stays j w hw hbefore hj
    · have hmem := h.stays j wj (hother j hji ▸ hwj) hopen hj
      split
      · exact (List.mem_erase_of_ne hji).2 hmem
      · exact hmem
  · intro j wj rest hwj hsj
    rw [hline]
    by_cases hji : j = i
    · subst hji
      cases hself.symm.trans hwj
      obtain rfl : stage = .sending rest := hsj
      rw [if_neg (by exact Bool.false_ne_true)]
      rcases sending_cases hstage with ⟨left, hs⟩ | ⟨hs, unfired⟩
      · exact h.first j w left hw hs
      · exact hfirst hs unfired
    · have hhead := h.first j wj rest (hother j hji ▸ hwj) hsj
      split
      · obtain ⟨tail, htail⟩ := List.head?_eq_some_iff.1 hhead
        rw [htail, List.erase_cons_tail (by simpa using hji)]
        rfl
      · exact hhead

end

/-- A desk that changed under the line, but for new writes neither in its writes
nor in its turns. -/
theorem Inv.replace {q : Queue} (h : q.Inv) {d : Desk} (hd : d.Inv)
    (hturns : d.turns = q.desk.turns) (new : List Write) (hwrites : d.writes = q.desk.writes ++ new)
    (hnew : ∀ w ∈ new, w.stage = .waiting) : ({ q with desk := d } : Queue).Inv := by
  have hold : ∀ i, i < q.desk.writes.length → d.writes[i]? = q.desk.writes[i]? := by
    intro i hi
    rw [hwrites, List.getElem?_append_left hi]
  refine ⟨hd, h.once, ?_, h.line, ?_, ?_, ?_, ?_⟩
  · intro i hi
    change i < d.writes.length
    rw [hwrites, List.length_append]
    exact Nat.lt_of_lt_of_le (h.started i hi) (Nat.le_add_right _ _)
  · intro i hi
    change ∃ w, d.writes[i]? = some w ∧ _
    rw [hold i (h.started i (h.line.subset hi))]
    exact h.unfinished i hi
  · intro i w hw hopen hi
    exact h.stays i w (hold i (h.started i hi) ▸ hw) hopen hi
  · intro i w rest hw hs
    change d.writes[i]? = some w at hw
    by_cases hlt : i < q.desk.writes.length
    · exact h.first i w rest (hold i hlt ▸ hw) hs
    · -- a write that has just started does not send
      rw [hwrites, List.getElem?_append_right (Nat.le_of_not_lt hlt)] at hw
      cases (hnew w (List.mem_of_getElem? hw)).symm.trans hs
  · change (d.turns ++ q.line.filter (· ∉ d.turns)).Sublist q.asked
    rw [hturns]
    exact h.order

/-- **One step of a run.** -/
theorem Inv.step {q : Queue} (h : q.Inv) (m : Move) : (q.step m).Inv := by
  have hnone : ∀ w ∈ ([] : List Write), w.stage = .waiting := List.forall_mem_nil _
  rcases m with ⟨token, frame⟩ | i | token | _
  · refine h.replace (h.desk.step (.start token frame)) rfl _ rfl ?_
    intro w hw
    rw [List.mem_singleton.1 hw]
    rfl
  · rcases hw : q.desk.writes[i]? with _ | w
    · rw [step_poll_of_none hw]
      exact h
    rw [step_poll hw]
    obtain ⟨hs, hp⟩ | ⟨hs, hfirst, hp⟩ | ⟨hs, _, _, hp⟩ := q.poll_cases i w
    all_goals rw [hp]
    · refine h.attempt hw ?_
      intro hwait unfired
      exact absurd (unfired.symm.trans (hs hwait)) Bool.false_ne_true
    · refine (h.ask hw hs).attempt ?_ fun _ _ => hfirst
      rw [desk_ask]
      exact hw
    · exact h.ask hw hs
  · exact h.replace (h.desk.step (.fire token)) rfl [] (List.append_nil _).symm hnone
  · refine h.replace (h.desk.step .dispose) ?_ [] ?_ hnone
    all_goals
      unfold Desk.step
      dsimp only
      split
    · rfl
    · rfl
    · exact (List.append_nil _).symm
    · exact (List.append_nil _).symm

/-- **A whole run.** -/
theorem Inv.run {q : Queue} (h : q.Inv) (moves : List Move) : (q.run moves).Inv := by
  induction moves generalizing q with
  | nil => exact h
  | cons m moves ih => exact ih (h.step m)

end Queue

end ProxyTunnel
