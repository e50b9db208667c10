/-
A sender that is disposed of is so for good.

The same mark stands for three things: somebody disposed of the sender, nobody
listens any more, or a frame was cut in the middle. Each of them sets it in the
hands of the task that has the lock, and from then on no other task can have it
and do anything with it: a write that waits is dropped when its turn comes, and
a disposal that waits finds nothing left to do. Only the disposal that set the
mark still has its shutdown to wait for (`Crew.Inv`).

So every deed of every run can be told by whether it sets the mark, and what it
can do afterwards (`Crew.Final`).
-/
import ProxyTunnel.Proofs.Crew

set_option autoImplicit false

namespace ProxyTunnel

open Event

/-! ## One attempt -/

/-- What is sent is no shutdown. -/
theorem countP_isShutDown_of_isSent {events : List Event} (h : events.all isSent = true) :
    events.countP isShutDown = 0 := by
  rw [List.countP_eq_zero]
  intro e he
  rw [isShutDown_of_isSent (List.all_eq_true.1 h e he)]
  exact Bool.false_ne_true

namespace Sender

/-- An attempt to send on leaves the sender as it was, or nobody listened. -/
theorem Transmits.disposed_eq {rest : Bytes} {s s' : Sender} {stage : Stage}
    {events : List Event} (h : Transmits rest s stage s' events) :
    s'.disposed = (s.disposed || events.any closesSink) := by
  cases h with
  | waits _ _ heard kept => rw [heard, kept, Bool.or_false]
  | delivers _ heard kept => rw [heard, kept, Bool.or_false]
  | closes _ _ unheard gone => rw [unheard, gone, Bool.or_true]
  | breaks _ _ _ heard kept => rw [heard, kept, Bool.or_false]

/-- If nobody listened, the write counts as done. -/
theorem Transmits.eq_of_unheard {rest : Bytes} {s s' : Sender} {stage : Stage}
    {events : List Event} (h : Transmits rest s stage s' events)
    (unheard : events.any closesSink = true) : stage = .finished (.ok ()) := by
  cases h with
  | delivers | closes => rfl
  | waits _ _ heard => exact absurd (heard.symm.trans unheard) Bool.false_ne_true
  | breaks _ _ _ heard => exact absurd (heard.symm.trans unheard) Bool.false_ne_true

end Sender

/-- A write that waits for a sender that is disposed of: the token comes before
the turn, and the frame is not looked at. -/
theorem Sender.attempt_of_gone {s : Sender} {w : Write} (gone : s.disposed = true)
    (hs : w.stage = .waiting) (busy : Bool) :
    s.attempt busy w =
      (if s.hasFired w.token then .finished (.error .cancelled)
        else if busy then .waiting else .finished (.ok ()), s) := by
  unfold attempt begin
  rw [hs, if_pos gone]
  dsimp only
  by_cases hfired : s.hasFired w.token
  · rw [if_pos hfired, if_pos hfired]
  · rw [if_neg hfired, if_neg hfired]
    by_cases hbusy : busy
    · rw [if_pos hbusy, if_pos hbusy]
    · rw [if_neg hbusy, if_neg hbusy]

namespace Task

variable {busy : Bool} {s s' : Sender} {t t' : Task} {events : List Event}

/-- A task has its turn after an attempt only if it had it before or nobody else
did. -/
theorem Attempts.turn (h : Attempts busy s t t' s' events) (ht : t'.hasTurn = true) :
    t.hasTurn = true ∨ busy = false := by
  cases h with
  | write _ step =>
    cases step with
    | idles | withdraws | queues | drops | refuses | tears => cases ht
    | begins _ _ turn => exact .inr turn
    | goesOn stage => exact .inl (by rw [hasTurn, stage]; rfl)
  | idles => exact .inl ht
  | queues | finds => cases ht
  | disposes turn => exact .inr turn
  | goesOn => exact .inl rfl

/-- An attempt changes the sender only in the hands of a task that has its turn, or
takes it. -/
theorem Attempts.changes (h : Attempts busy s t t' s' events) (hne : s' ≠ s) :
    t.hasTurn = true ∨ busy = false := by
  cases h with
  | write _ step =>
    cases step with
    | idles | withdraws | queues | drops | refuses => exact absurd rfl hne
    | begins _ _ turn => exact .inr turn
    | tears stage => exact .inl (by rw [hasTurn, stage]; rfl)
    | goesOn stage => exact .inl (by rw [hasTurn, stage]; rfl)
  | idles | queues | finds => exact absurd rfl hne
  | disposes turn => exact .inr turn
  | goesOn => exact .inl rfl

/-- On a sender that is disposed of, a task without its turn gets none, and the
sender sees nothing of it. -/
theorem Attempts.late (h : Attempts busy s t t' s' events) (gone : s.disposed = true)
    (ht : t.hasTurn = false) : s' = s ∧ events = [] ∧ t'.hasTurn = false := by
  cases h with
  | write _ step =>
    cases step with
    | idles | withdraws | queues | drops => exact ⟨rfl, rfl, rfl⟩
    | refuses _ _ _ _ usable => rw [gone] at usable; cases usable
    | begins _ _ _ _ usable => rw [gone] at usable; cases usable
    | tears stage => rw [hasTurn, stage] at ht; cases ht
    | goesOn stage => rw [hasTurn, stage] at ht; cases ht
  | idles => exact ⟨rfl, rfl, ht⟩
  | queues | finds => exact ⟨rfl, rfl, rfl⟩
  | disposes _ usable => rw [gone] at usable; cases usable
  | goesOn => cases ht

/-- How an attempt disposes of a sender. -/
inductive Ends (busy : Bool) (s : Sender) (t t' : Task) (events : List Event) : Prop
  | purpose (task : t = .disposal .waiting) (free : busy = false)
      (only : events.all isShutDown = true)
  | unheard {w : Write} (task : t = .write w) (unheard : events.any closesSink = true)
      (done : t' = .write { w with stage := .finished (.ok ()) })
  | torn {w : Write} {rest : Bytes} (task : t = .write w) (sending : w.stage = .sending rest)
      (fired : s.hasFired w.token = true)
      (cancelled : t' = .write { w with stage := .finished (.error .cancelled) })

/-- A write that does not send, and of which the socket sees nothing, does not. -/
theorem not_ends_of_silent {w : Write} (hs : ∀ rest, w.stage ≠ .sending rest) :
    ¬ Ends busy s (.write w) t' [] := by
  rintro (⟨⟨⟩, _, _⟩ | ⟨_, ⟨⟩, _⟩ | ⟨htask, hsending, _, _⟩)
  cases htask
  exact hs _ hsending

/-- **What disposes of a usable sender**, and nothing else does. -/
theorem Attempts.disposed_iff (h : Attempts busy s t t' s' events) (usable : s.disposed = false)
    (ht : t ≠ .disposal .shutting) : s'.disposed = true ↔ Ends busy s t t' events := by
  have hkept : s'.disposed = false → ¬ Ends busy s t t' events →
      (s'.disposed = true ↔ Ends busy s t t' events) :=
    fun hs hne => iff_of_false (by rw [hs]; exact Bool.false_ne_true) hne
  cases h with
  | @write w stage s' events _ step =>
    -- a write that goes on sending disposes of the sender only if nobody listens
    have hon : ∀ {rest : Bytes}, Sender.Transmits rest s stage s' events →
        (s'.disposed = true ↔
          Ends busy s (.write w) (.write { w with stage := stage }) events) := by
      intro rest step
      rw [step.disposed_eq, usable, Bool.false_or]
      constructor
      · intro hunheard
        have hdone := step.eq_of_unheard hunheard
        exact .unheard rfl hunheard (by rw [hdone])
      · rintro (⟨⟨⟩, _, _⟩ | ⟨_, hunheard, _⟩ | ⟨htask, _, _, hcancelled⟩)
        · exact hunheard
        · cases htask
          cases hcancelled
          cases step
    cases step with
    | idles hs | withdraws hs | queues hs | refuses hs =>
      exact hkept usable (not_ends_of_silent (by rw [hs]; rintro _ ⟨⟩))
    | drops _ _ _ gone => rw [usable] at gone; cases gone
    | begins _ _ _ _ _ step => exact hon step
    | tears hs fired => exact iff_of_true rfl (.torn rfl hs fired rfl)
    | goesOn _ step => exact hon step
  | idles settled =>
    refine hkept usable ?_
    rintro (⟨rfl, _, _⟩ | ⟨rfl, _, _⟩ | ⟨rfl, _, _, _⟩) <;> rcases settled with h | h <;> cases h
  | queues turn =>
    refine hkept usable ?_
    rintro (⟨_, hfree, _⟩ | ⟨⟨⟩, _, _⟩ | ⟨⟨⟩, _, _, _⟩)
    rw [turn] at hfree
    cases hfree
  | finds _ gone => rw [usable] at gone; cases gone
  | disposes turn _ step =>
    cases step with
    | waits kept => exact iff_of_true kept (.purpose rfl turn rfl)
    | ends he kept => exact iff_of_true kept (.purpose rfl turn (by rw [List.all_cons, he]; rfl))
  | goesOn => exact absurd rfl ht

/-- A write that ends with an error leaves the sender as it was, unless it was
cancelled in the middle of its frame. -/
theorem Attempts.spares {w : Write} {cause : Failure}
    (h : Attempts busy s (.write w) (.write { w with stage := .finished (.error cause) }) s' events)
    (hcause : w.stage = .waiting ∨ cause ≠ .cancelled) : s'.disposed = s.disposed := by
  generalize ht : Task.write { w with stage := .finished (.error cause) } = t' at h
  cases h with
  | @write _ stage _ _ _ step =>
    obtain rfl : stage = .finished (.error cause) := by
      injection ht with hw
      exact (congrArg Write.stage hw).symm
    cases step with
    | idles | withdraws | refuses => rfl
    | begins _ _ _ _ _ step => cases step with | breaks _ _ _ _ kept => exact kept
    | tears stage =>
      rcases hcause with hwaiting | hne
      · rw [hwaiting] at stage
        cases stage
      · exact absurd rfl hne
    | goesOn _ step => cases step with | breaks _ _ _ _ kept => exact kept
  | idles settled => rcases settled with h | h <;> cases h

/-- What an attempt on a usable sender leaves: a usable sender and no shutdown, or
one that is disposed of, on which nobody has the turn but a disposal that still
waits for its shutdown. -/
theorem Attempts.of_usable (h : Attempts busy s t t' s' events) (usable : s.disposed = false)
    (ht : t ≠ .disposal .shutting) :
    (s'.disposed = false → events.countP isShutDown = 0 ∧ t' ≠ .disposal .shutting) ∧
    (s'.disposed = true → events.countP isShutDown ≤ 1 ∧ (t'.hasTurn = true →
      t' = .disposal .shutting ∧ events.countP isShutDown = 0)) := by
  have hends := h.disposed_iff usable ht
  cases h with
  | @write w stage s' events sent step =>
    have hnone := countP_isShutDown_of_isSent sent
    refine ⟨fun _ => ⟨hnone, nofun⟩, fun hgone => ⟨by omega, ?_⟩⟩
    -- the write that did it is over
    rcases hends.1 hgone with ⟨⟨⟩, _, _⟩ | ⟨_, _, hdone⟩ | ⟨_, _, _, hcancelled⟩
    · rw [hdone]
      rintro ⟨⟩
    · rw [hcancelled]
      rintro ⟨⟩
  | idles settled =>
    refine ⟨fun _ => ⟨rfl, ?_⟩, fun hgone => absurd (usable.symm.trans hgone) Bool.false_ne_true⟩
    exact ht
  | queues =>
    exact ⟨fun _ => ⟨rfl, nofun⟩, fun hgone => absurd (usable.symm.trans hgone) Bool.false_ne_true⟩
  | finds _ hgone => exact absurd (usable.symm.trans hgone) Bool.false_ne_true
  | disposes turn _ step =>
    cases step with
    | waits kept =>
      exact ⟨fun hopen => absurd (hopen.symm.trans kept) Bool.false_ne_true,
        fun _ => ⟨Nat.zero_le _, fun _ => ⟨rfl, rfl⟩⟩⟩
    | ends he kept =>
      exact ⟨fun hopen => absurd (hopen.symm.trans kept) Bool.false_ne_true,
        fun _ => ⟨List.countP_le_length, nofun⟩⟩
  | goesOn => exact absurd rfl ht

/-- A disposal that waits for its shutdown goes on waiting, or is over with the
one event of it. -/
theorem Attempts.of_shutting (h : Attempts busy s (.disposal .shutting) t' s' events) :
    s'.disposed = s.disposed ∧ (t' = .disposal .shutting ∧ events = [] ∨
      t' = .disposal .finished ∧ ∃ e, e.isShutDown = true ∧ events = [e]) := by
  cases h with
  | idles settled => rcases settled with h | h <;> cases h
  | goesOn step =>
    cases step with
    | waits kept => exact ⟨kept, .inl ⟨rfl, rfl⟩⟩
    | ends he kept => exact ⟨kept, .inr ⟨rfl, _, he, rfl⟩⟩

end Task

/-! ## A whole run -/

namespace Crew

/-- The shutdowns so far. -/
def shutDowns (c : Crew) : Nat := c.journal.events.countP isShutDown

/-- What every run preserves that began with `n` shutdowns: one task at most has
the lock, and once the sender is disposed of, that can only be the disposal that
did it, before its one shutdown. -/
structure Inv (n : Nat) (c : Crew) : Prop where
  alone : ∀ (i j : Nat) (t u : Task), c.tasks[i]? = some t → c.tasks[j]? = some u →
    t.hasTurn = true → u.hasTurn = true → i = j
  usable : c.sender.disposed = false → c.ender = none ∧ c.shutDowns = n ∧
    ∀ i : Nat, c.tasks[i]? ≠ some (.disposal .shutting)
  gone : c.sender.disposed = true → c.shutDowns ≤ n + 1 ∧ ∀ (i : Nat) (t : Task),
    c.tasks[i]? = some t → t.hasTurn = true →
      t = .disposal .shutting ∧ c.ender = some i ∧ c.shutDowns = n

/-- A sender with nothing to do. -/
theorem inv_of {s : Sender} (usable : s.disposed = false) :
    (of s).Inv (s.socket.journal.events.countP isShutDown) where
  alone i j t u ht := by cases ht
  usable _ := ⟨rfl, rfl, fun i h => by cases h⟩
  gone h := absurd (usable.symm.trans h) Bool.false_ne_true

section

variable {n : Nat} {c : Crew} {i : Nat} {admitted : Bool} {t t' : Task} {s' : Sender}
  {events : List Event}

/-- While a task has its turn, or nobody else does, no other task has it. -/
theorem Inv.others (h : c.Inv n) (ht : c.tasks[i]? = some t)
    (hturn : t.hasTurn = true ∨ c.busy i = false) {j : Nat} {u : Task} (hj : j ≠ i)
    (hu : c.tasks[j]? = some u) : u.hasTurn = false := by
  rw [Bool.eq_false_iff]
  intro hhas
  rcases hturn with hself | hfree
  · exact hj (h.alone j i u t hu ht hhas hself)
  · have hmem : u ∈ c.tasks.eraseIdx i := List.mem_eraseIdx_iff_getElem?.2 ⟨j, hj, hu⟩
    exact List.any_eq_false.1 hfree u hmem hhas

/-- The tasks that have their turn after an attempt. -/
theorem turn_set {j : Nat} {u : Task} (ht : c.tasks[i]? = some t)
    (hu : (c.tasks.set i t')[j]? = some u) : j = i ∧ u = t' ∨ j ≠ i ∧ c.tasks[j]? = some u := by
  by_cases hj : j = i
  · rw [hj, List.getElem?_set_self (List.getElem?_eq_some_iff.1 ht).1] at hu
    exact .inl ⟨hj, (Option.some.inj hu).symm⟩
  · rw [List.getElem?_set_ne (Ne.symm hj)] at hu
    exact .inr ⟨hj, hu⟩

/-- After an attempt in which a task has its turn, no other has it. -/
theorem Inv.only (h : c.Inv n) (ht : c.tasks[i]? = some t)
    (step : Task.Attempts (c.busy i || !admitted) c.sender t t' s' events)
    (hturn : t'.hasTurn = true) {j : Nat} {u : Task} (hj : j ≠ i) (hu : c.tasks[j]? = some u) :
    u.hasTurn = false := by
  refine h.others ht ?_ hj hu
  apply (step.turn hturn).imp_right
  intro hfree
  exact (Bool.or_eq_false_iff.1 hfree).1

theorem Inv.attempt_alone (h : c.Inv n) (ht : c.tasks[i]? = some t)
    (step : Task.Attempts (c.busy i || !admitted) c.sender t t' s' events) (j k : Nat)
    (u v : Task) (hu : (c.tasks.set i t')[j]? = some u) (hv : (c.tasks.set i t')[k]? = some v)
    (hju : u.hasTurn = true) (hkv : v.hasTurn = true) : j = k := by
  -- if neither is the task that was attempted, both are as they were
  rcases turn_set ht hu with ⟨rfl, rfl⟩ | ⟨hj, hold⟩
  · rcases turn_set ht hv with ⟨rfl, rfl⟩ | ⟨hk, hold⟩
    · rfl
    · exact absurd ((h.only ht step hju hk hold).symm.trans hkv) Bool.false_ne_true
  · rcases turn_set ht hv with ⟨rfl, rfl⟩ | ⟨hk, hold'⟩
    · exact absurd ((h.only ht step hkv hj hold).symm.trans hju) Bool.false_ne_true
    · exact h.alone j k u v hold hold' hju hkv

/-- The crew after an attempt that did this. -/
def put (c : Crew) (i : Nat) (t' : Task) (s' : Sender) : Crew :=
  ⟨s', c.tasks.set i t', if !c.sender.disposed && s'.disposed then some i else c.ender⟩

/-- **What an attempt preserves.** -/
theorem Inv.put (h : c.Inv n) (ht : c.tasks[i]? = some t)
    (step : Task.Attempts (c.busy i || !admitted) c.sender t t' s' events)
    (hcount : (c.put i t' s').shutDowns = c.shutDowns + events.countP isShutDown) :
    (c.put i t' s').Inv n := by
  have halone := h.attempt_alone ht step
  rcases hd : c.sender.disposed with _ | _
  · -- a usable sender: no shutdown is under way, and none was made
    obtain ⟨hnobody, hn, hopen⟩ := h.usable hd
    have hne : t ≠ .disposal .shutting := by
      rintro rfl
      exact hopen i ht
    obtain ⟨hstill, hgone⟩ := step.of_usable hd hne
    refine ⟨halone, fun hu => ⟨?_, ?_, ?_⟩, fun hg => ⟨?_, ?_⟩⟩
    · change (if !c.sender.disposed && s'.disposed then some i else c.ender) = none
      rw [show s'.disposed = false from hu, Bool.and_false]
      exact hnobody
    · rw [hcount, hn, (hstill hu).1, Nat.add_zero]
    · intro j hj
      rcases turn_set ht hj with ⟨_, hself⟩ | ⟨_, hold⟩
      · exact (hstill hu).2 hself.symm
      · exact hopen j hold
    · rw [hcount, hn]
      exact Nat.add_le_add_left (hgone hg).1 n
    · intro j u hu hturn
      rcases turn_set ht hu with ⟨rfl, rfl⟩ | ⟨hj, hold⟩
      · obtain ⟨hshutting, hnone⟩ := (hgone hg).2 hturn
        refine ⟨hshutting, ?_, by rw [hcount, hn, hnone, Nat.add_zero]⟩
        change (if !c.sender.disposed && s'.disposed then some j else c.ender) = some j
        rw [hd, show s'.disposed = true from hg]
        rfl
      · -- whoever changed the sender had the lock, so this task has not
        have hchanged : s' ≠ c.sender := by
          rintro rfl
          exact Bool.false_ne_true (hd.symm.trans hg)
        have hlock : t.hasTurn = true ∨ c.busy i = false :=
          (step.changes hchanged).imp_right fun hfree => (Bool.or_eq_false_iff.1 hfree).1
        exact absurd ((h.others ht hlock hj hold).symm.trans hturn) Bool.false_ne_true
  · obtain ⟨hle, hheld⟩ := h.gone hd
    have hender : (c.put i t' s').ender = c.ender := by
      change (if !c.sender.disposed && s'.disposed then some i else c.ender) = c.ender
      rw [hd]
      rfl
    rcases hturn : t.hasTurn with _ | _
    · -- a task without the turn leaves everything as it is
      obtain ⟨rfl, rfl, hnone⟩ := step.late hd hturn
      refine ⟨halone, fun hu => absurd (hu.symm.trans hd) Bool.false_ne_true,
        fun _ => ⟨hcount ▸ hle, ?_⟩⟩
      intro j u hu hju
      rcases turn_set ht hu with ⟨_, rfl⟩ | ⟨_, hold⟩
      · exact absurd (hnone.symm.trans hju) Bool.false_ne_true
      · rw [hender, hcount]
        exact hheld j u hold hju
    · obtain ⟨rfl, hself, hn⟩ := hheld i t ht hturn
      obtain ⟨hkept, hends⟩ := step.of_shutting
      refine ⟨halone, fun hu => absurd (hu.symm.trans (hkept.trans hd)) Bool.false_ne_true,
        fun _ => ⟨?_, ?_⟩⟩
      · rw [hcount, hn]
        rcases hends with ⟨_, rfl⟩ | ⟨_, e, _, rfl⟩
        · exact Nat.le_succ n
        · exact Nat.add_le_add_left List.countP_le_length n
      · intro j u hu hju
        rcases turn_set ht hu with ⟨rfl, rfl⟩ | ⟨hj, hold⟩
        · rcases hends with ⟨rfl, rfl⟩ | ⟨rfl, _⟩
          · exact ⟨rfl, hender.trans hself, hcount.trans hn⟩
          · cases hju
        · exact absurd ((h.others ht (.inl hturn) hj hold).symm.trans hju) Bool.false_ne_true

/-- A crew in which the same sender is in the hands of the same tasks, or of
nobody. -/
theorem Inv.of_turns {c' : Crew} (h : c.Inv n) (hd : c'.sender.disposed = c.sender.disposed)
    (hender : c'.ender = c.ender) (hcount : c'.shutDowns = c.shutDowns)
    (hold : ∀ (i : Nat) (t : Task), c'.tasks[i]? = some t → t.hasTurn = true →
      c.tasks[i]? = some t) : c'.Inv n := by
  refine ⟨?_, fun hu => ?_, fun hg => ?_⟩
  · intro i j t u ht hu hti huj
    exact h.alone i j t u (hold i t ht hti) (hold j u hu huj) hti huj
  · obtain ⟨hnobody, hn, hopen⟩ := h.usable (hd.symm.trans hu)
    exact ⟨hender.trans hnobody, hcount.trans hn, fun i hi => hopen i (hold i _ hi rfl)⟩
  · obtain ⟨hle, hheld⟩ := h.gone (hd.symm.trans hg)
    rw [hender, hcount]
    exact ⟨hle, fun i t ht hturn => hheld i t (hold i t ht hturn) hturn⟩

/-- A task that was added or put in place of another without the turn is none of
those that have it. -/
theorem mem_of_append {u : Task} (hu : u.hasTurn = false) {i : Nat} {t : Task}
    (ht : (c.tasks ++ [u])[i]? = some t) (hturn : t.hasTurn = true) : c.tasks[i]? = some t := by
  rw [List.getElem?_append] at ht
  by_cases hlt : i < c.tasks.length
  · rwa [if_pos hlt] at ht
  · rw [if_neg hlt] at ht
    have hmem := List.mem_of_getElem? ht
    rw [List.mem_singleton] at hmem
    rw [hmem, hu] at hturn
    cases hturn

/-- **One deed.** -/
theorem Inv.step (h : c.Inv n) (d : Deed) : (c.step d).Inv n := by
  obtain ⟨hg, hdoes⟩ := c.does_step d
  generalize c.step d = c' at hg hdoes ⊢
  generalize c.gained d = events at hg hdoes
  have hcount : c'.shutDowns = c.shutDowns + events.countP isShutDown := by
    rw [shutDowns, hg.events_eq, List.countP_append, shutDowns]
  cases hdoes with
  | attempts there step => exact h.put there step hcount
  | misses => exact h
  | starts fresh =>
    refine h.of_turns rfl rfl rfl fun i t ht hturn => mem_of_append ?_ ht hturn
    rcases fresh with ⟨_, _, _, rfl⟩ | ⟨_, rfl⟩ <;> rfl
  | @abandons i =>
    refine h.of_turns rfl rfl rfl ?_
    intro j t ht hturn
    by_cases hj : j = i
    · subst hj
      rw [List.getElem?_set_self'] at ht
      rcases hself : c.tasks[j]? with _ | u
      all_goals rw [hself] at ht; cases ht
      cases hturn
    · rwa [List.getElem?_set_ne (Ne.symm hj)] at ht
  | fires => exact h.of_turns rfl rfl hcount fun _ _ ht _ => ht

/-- **A whole run.** -/
theorem Inv.run (h : c.Inv n) (deeds : List Deed) : (c.run deeds).Inv n := by
  -- by induction on the deeds, with `Inv.step` for each of them
  induction deeds generalizing c with
  | nil => exact h
  | cons d deeds ih => exact ih (h.step d)

end

/-! ## What the mark tells -/

/-- What makes a deed dispose of the sender. -/
inductive Disposes (c : Crew) (d : Deed) : Prop
  /-- A disposal gets the lock. All that reaches the socket is its shutdown. -/
  | purpose {i : Nat} (deed : d = .poll i true) (task : c.tasks[i]? = some (.disposal .waiting))
      (free : c.busy i = false) (only : (c.gained d).all isShutDown = true)
  /-- A write or a flush finds nobody listening. The write counts as done. -/
  | unheard {i : Nat} {admitted : Bool} {w : Write} (deed : d = .poll i admitted)
      (task : c.tasks[i]? = some (.write w)) (unheard : (c.gained d).any closesSink = true)
      (done : (c.step d).tasks[i]? = some (.write { w with stage := .finished (.ok ()) }))
  /-- A write resumes in the middle of its frame, and its token has fired. -/
  | torn {i : Nat} {admitted : Bool} {w : Write} {rest : Bytes} (deed : d = .poll i admitted)
      (task : c.tasks[i]? = some (.write w)) (sending : w.stage = .sending rest)
      (fired : c.sender.hasFired w.token = true)
      (cancelled : (c.step d).tasks[i]? =
        some (.write { w with stage := .finished (.error .cancelled) }))

/-- What the disposed state tells at any moment of a run that began with `n`
shutdowns. -/
structure Final (n : Nat) (c : Crew) : Prop where
  /-- A deed sets it exactly in these ways. -/
  becomes : c.sender.disposed = false → ∀ d, (c.step d).sender.disposed = true ↔ c.Disposes d
  /-- A write that is cancelled while it waits, refused, or broken by any other
  fault leaves it as it is. -/
  spared : ∀ (i : Nat) (admitted : Bool) (w : Write) (cause : Failure),
    c.tasks[i]? = some (.write w) →
    (c.step (.poll i admitted)).tasks[i]? =
      some (.write { w with stage := .finished (.error cause) }) →
    w.stage = .waiting ∨ cause ≠ .cancelled →
    (c.step (.poll i admitted)).sender.disposed = c.sender.disposed
  /-- It stays, with whoever set it. -/
  stays : c.sender.disposed = true → ∀ later, (c.run later).sender.disposed = true ∧
    (c.run later).ender = c.ender
  /-- Nothing reaches the socket any more but the shutdown of the disposal that
  set it. -/
  silent : c.sender.disposed = true → ∀ d, c.gained d = [] ∨
    ∃ (i : Nat) (admitted : Bool) (e : Event), d = .poll i admitted ∧ c.ender = some i ∧
      c.tasks[i]? = some (.disposal .shutting) ∧ e.isShutDown = true ∧ c.gained d = [e]
  /-- There is one shutdown at most. -/
  once : c.shutDowns ≤ n + 1
  /-- No write is under way then, and a write that waits is cancelled if its token
  has fired, and done as soon as it gets the lock, whatever its frame is. -/
  late : c.sender.disposed = true → ∀ (i : Nat) (w : Write), c.tasks[i]? = some (.write w) →
    (∀ rest, w.stage ≠ .sending rest) ∧
    (w.stage = .waiting → ∀ admitted, (c.step (.poll i admitted)).sender = c.sender ∧
      (c.step (.poll i admitted)).tasks[i]? = some (.write { w with stage := (
        if c.sender.hasFired w.token then .finished (.error .cancelled)
        else if c.busy i || !admitted then .waiting else .finished (.ok ())) }))

section

variable {n : Nat} {c : Crew}

/-- An attempt disposes of the sender in one of these ways. -/
theorem disposes_iff {i : Nat} {admitted : Bool} {t t' : Task} {s' : Sender} {events : List Event}
    (there : c.tasks[i]? = some t) (hstep : c.step (.poll i admitted) = c.put i t' s')
    (hgained : c.gained (.poll i admitted) = events) :
    c.Disposes (.poll i admitted) ↔
      Task.Ends (c.busy i || !admitted) c.sender t t' events := by
  have hself : (c.step (.poll i admitted)).tasks[i]? = some t' := by
    rw [hstep]
    exact List.getElem?_set_self (List.getElem?_eq_some_iff.1 there).1
  constructor
  · rintro (⟨⟨⟩, task, free, only⟩ | ⟨⟨⟩, task, unheard, done⟩ |
      ⟨⟨⟩, task, sending, fired, cancelled⟩)
    all_goals cases there.symm.trans task
    · rw [hgained] at only
      exact .purpose rfl (by rw [free]; rfl) only
    · rw [hgained] at unheard
      exact .unheard rfl unheard (Option.some.inj (hself.symm.trans done))
    · exact .torn rfl sending fired (Option.some.inj (hself.symm.trans cancelled))
  · rintro (⟨rfl, free, only⟩ | ⟨rfl, unheard, rfl⟩ | ⟨rfl, sending, fired, rfl⟩)
    · rw [Bool.or_eq_false_iff, Bool.not_eq_false'] at free
      obtain ⟨hfree, rfl⟩ := free
      exact .purpose rfl there hfree (by rw [hgained]; exact only)
    · exact .unheard rfl there (by rw [hgained]; exact unheard) hself
    · exact .torn rfl there sending fired hself

theorem Inv.becomes (h : c.Inv n) (usable : c.sender.disposed = false) (d : Deed) :
    (c.step d).sender.disposed = true ↔ c.Disposes d := by
  obtain ⟨_, hdoes⟩ := c.does_step d
  generalize hstep : c.step d = c' at hdoes ⊢
  generalize hgained : c.gained d = events at hdoes
  -- without an attempt the sender stays usable, and no task is there to dispose of it
  have hkept : ¬ c.sender.disposed = true := by
    rw [usable]
    exact Bool.false_ne_true
  cases hdoes with
  | attempts there step =>
    rw [disposes_iff there hstep hgained]
    refine step.disposed_iff usable ?_
    rintro rfl
    exact (h.usable usable).2.2 _ there
  | misses nobody =>
    refine iff_of_false hkept ?_
    rintro (⟨⟨⟩, task, _, _⟩ | ⟨⟨⟩, task, _, _⟩ | ⟨⟨⟩, task, _, _, _⟩) <;>
      cases nobody.symm.trans task
  | starts fresh =>
    refine iff_of_false hkept ?_
    rintro (⟨rfl, _, _, _⟩ | ⟨rfl, _, _, _⟩ | ⟨rfl, _, _, _, _⟩) <;>
      rcases fresh with ⟨_, _, h, _⟩ | ⟨h, _⟩ <;> cases h
  | abandons =>
    refine iff_of_false hkept ?_
    rintro (⟨⟨⟩, _, _, _⟩ | ⟨⟨⟩, _, _, _⟩ | ⟨⟨⟩, _, _, _, _⟩)
  | fires =>
    refine iff_of_false hkept ?_
    rintro (⟨⟨⟩, _, _, _⟩ | ⟨⟨⟩, _, _, _⟩ | ⟨⟨⟩, _, _, _, _⟩)

/-- One deed on a sender that is disposed of. -/
theorem Inv.of_gone (h : c.Inv n) (gone : c.sender.disposed = true) (d : Deed) :
    ((c.step d).sender.disposed = true ∧ (c.step d).ender = c.ender) ∧
      (c.gained d = [] ∨ ∃ (i : Nat) (admitted : Bool) (e : Event), d = .poll i admitted ∧
        c.ender = some i ∧ c.tasks[i]? = some (.disposal .shutting) ∧ e.isShutDown = true ∧
        c.gained d = [e]) := by
  obtain ⟨_, hdoes⟩ := c.does_step d
  generalize c.step d = c' at hdoes ⊢
  generalize c.gained d = events at hdoes ⊢
  cases hdoes with
  | @attempts i admitted t t' s' _ there step =>
    have hender : (if !c.sender.disposed && s'.disposed then some i else c.ender) = c.ender := by
      rw [gone]
      rfl
    rcases hturn : t.hasTurn with _ | _
    · obtain ⟨rfl, rfl, _⟩ := step.late gone hturn
      exact ⟨⟨gone, hender⟩, .inl rfl⟩
    · obtain ⟨rfl, hself, _⟩ := (h.gone gone).2 i t there hturn
      obtain ⟨hkept, ⟨_, rfl⟩ | ⟨_, e, he, rfl⟩⟩ := step.of_shutting
      · exact ⟨⟨hkept.trans gone, hender⟩, .inl rfl⟩
      · exact ⟨⟨hkept.trans gone, hender⟩, .inr ⟨i, admitted, e, rfl, hself, there, he, rfl⟩⟩
  | misses => exact ⟨⟨gone, rfl⟩, .inl rfl⟩
  | starts => exact ⟨⟨gone, rfl⟩, .inl rfl⟩
  | abandons => exact ⟨⟨gone, rfl⟩, .inl rfl⟩
  | fires => exact ⟨⟨gone, rfl⟩, .inl rfl⟩

theorem Inv.stays (h : c.Inv n) (gone : c.sender.disposed = true) (later : List Deed) :
    (c.run later).sender.disposed = true ∧ (c.run later).ender = c.ender := by
  induction later generalizing c with
  | nil => exact ⟨gone, rfl⟩
  | cons d later ih =>
    obtain ⟨⟨hgone, hender⟩, _⟩ := h.of_gone gone d
    have hrest := ih (h.step d) hgone
    exact ⟨hrest.1, hrest.2.trans hender⟩

theorem Inv.final (h : c.Inv n) : c.Final n where
  becomes := h.becomes
  spared i admitted w cause there hself hcause := by
    obtain ⟨_, hdoes⟩ := c.does_step (.poll i admitted)
    generalize c.step (.poll i admitted) = c' at hdoes hself ⊢
    generalize c.gained (.poll i admitted) = events at hdoes
    cases hdoes with
    | attempts there' step =>
      cases there.symm.trans there'
      change (c.tasks.set i _)[i]? = _ at hself
      rw [List.getElem?_set_self (List.getElem?_eq_some_iff.1 there).1] at hself
      cases hself
      exact step.spares hcause
    | misses nobody => cases nobody.symm.trans there
    | starts fresh => rcases fresh with ⟨_, _, h, _⟩ | ⟨h, _⟩ <;> cases h
  stays := h.stays
  silent gone d := (h.of_gone gone d).2
  once := by
    rcases hd : c.sender.disposed with _ | _
    · rw [(h.usable hd).2.1]
      exact Nat.le_succ n
    · exact (h.gone hd).1
  late gone i w there := by
    constructor
    · intro rest hs
      have hturn : (Task.write w).hasTurn = true := by rw [Task.hasTurn, hs]; rfl
      obtain ⟨⟨⟩, _⟩ := (h.gone gone).2 i _ there hturn
    · intro hs admitted
      have hattempt := Sender.attempt_of_gone gone hs (c.busy i || !admitted)
      have hself := tasks_attempt_self there admitted
      rw [step_poll there, hself]
      simp only [attempt, Task.attempt, hattempt, true_and]

end

end Crew

end ProxyTunnel
