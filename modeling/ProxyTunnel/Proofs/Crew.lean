/-
Everybody at work on one sender, one attempt at a time.

`Sender.dispose` disposes of a sender in one go. When it runs beside others it
waits as a write does: first for the lock, and then, with the lock held and the
sender marked as disposed, for its shutdown. `Sender.attemptDisposal` is one
attempt at that, and attempts until it is finished are `Sender.dispose`
(`Sender.run_disposing`).

A `Crew` is a sender with all the tasks started on it, writes and disposals. A
`Deed` is one thing that may happen: a task starts, is attempted or is abandoned
where it stands, or a token fires. Which of the tasks that wait gets a lock that
is free is for the environment to say, so the runs of any discipline of locking
are runs of a crew.

What an attempt can do is said once (`Task.Attempts`), and every invariant of a
run is derived from that.
-/
import ProxyTunnel.Proofs.Sides

set_option autoImplicit false

namespace ProxyTunnel

open Event

/-! ## One disposal -/

/-- How far a disposal has come. -/
inductive Disposal where
  | waiting
  /-- The sender is disposed of, and its shutdown is being waited for. -/
  | shutting
  | finished
  deriving DecidableEq

namespace Sender

/-- Attempts the shutdown of a sender that is disposed of. One that fails is only
noted. -/
def shutDown (s : Sender) : Disposal × Sender :=
  match s.socket.pollShutDown with
  | (.pending, socket) => (.shutting, { s with socket })
  | (.ready (.ok ()), socket) => (.finished, { s with socket })
  | (.ready (.error e), socket) =>
    (.finished, { s with socket := socket.record (.notice (.shutDownFailed e)) })

/-- One attempt to dispose of a sender. `busy` tells that another has its turn. -/
def attemptDisposal (busy : Bool) : Disposal → Sender → Disposal × Sender
  | .waiting, s =>
    if busy then (.waiting, s)
    else if s.disposed then (.finished, s)
    else shutDown { s with disposed := true }
  | .shutting, s => s.shutDown
  | .finished, s => (.finished, s)

/-- A disposal of a usable sender marks it and goes on with the shutdown. -/
theorem attemptDisposal_of_usable {s : Sender} (h : s.disposed = false) :
    attemptDisposal false .waiting s = attemptDisposal false .shutting { s with disposed := true } := by
  simp only [attemptDisposal, h, Bool.false_eq_true, if_false]

/-- One attempt at a disposal that nobody keeps waiting. -/
def attemptAlone (state : Disposal × Sender) : Poll Unit × (Disposal × Sender) :=
  let after := attemptDisposal false state.1 state.2
  (match after.1 with
    | .finished => .ready ()
    | _ => .pending,
    after)

theorem stepsLeft_shutDown_lt (s : Sender) (h : s.shutDown.1 ≠ .finished) :
    s.shutDown.2.socket.stepsLeft < s.socket.stepsLeft := by
  have hlt := Socket.stepsLeft_pollShutDown_lt s.socket
  unfold shutDown at h ⊢
  split at h <;> simp_all

/-- With nobody else's turn in the way, a disposal that is not finished has used
a step up. -/
theorem stepsLeft_attemptDisposal_lt (stage : Disposal) (s : Sender)
    (h : (attemptDisposal false stage s).1 ≠ .finished) :
    (attemptDisposal false stage s).2.socket.stepsLeft < s.socket.stepsLeft := by
  cases stage with
  | waiting =>
    rcases hgone : s.disposed with _ | _
    · rw [attemptDisposal_of_usable hgone] at h ⊢
      exact stepsLeft_shutDown_lt { s with disposed := true } h
    · simp [attemptDisposal, hgone] at h
  | shutting => exact stepsLeft_shutDown_lt s h
  | finished => exact absurd rfl h

/-- Getting a disposal done. -/
def disposing : Operation (Disposal × Sender) Unit where
  attempt := attemptAlone
  patience state := state.2.socket.stepsLeft
  shrinks state h := by
    apply stepsLeft_attemptDisposal_lt
    intro hfinished
    simp [attemptAlone, hfinished] at h

/-- A shutdown that is waited for ends as that of the socket does. -/
theorem run_shutting (socket : Socket) :
    (disposing.run (.shutting, ⟨socket, true⟩)).2.2 =
      match Socket.shuttingDown.run socket with
      | (.ok (), socket) => ⟨socket, true⟩
      | (.error e, socket) => ⟨socket.record (.notice (.shutDownFailed e)), true⟩ := by
  refine Socket.shuttingDown.await_rec (fun _ => none)
    (motive := fun socket after => (disposing.run (.shutting, ⟨socket, true⟩)).2.2 =
      match after with
      | (.ok (), socket) => ⟨socket, true⟩
      | (.error e, socket) => ⟨socket.record (.notice (.shutDownFailed e)), true⟩) ?_ ?_ ?_ socket
  · intro socket result after h
    change socket.pollShutDown = _ at h
    have hattempt : disposing.attempt (.shutting, ⟨socket, true⟩) = (.ready (), .finished,
        match result with
        | .ok () => ⟨after, true⟩
        | .error e => ⟨after.record (.notice (.shutDownFailed e)), true⟩) := by
      simp only [disposing, attemptAlone, attemptDisposal, shutDown, h]
      rcases result with e | ⟨⟩ <;> rfl
    rw [Operation.run, Operation.await_of_ready hattempt]
    rcases result with e | ⟨⟩ <;> rfl
  · intro socket result after _ hstop
    cases hstop
  · intro socket socket' after h _ ih
    change socket.pollShutDown = _ at h
    have hattempt : disposing.attempt (.shutting, ⟨socket, true⟩) =
        (.pending, .shutting, ⟨socket', true⟩) := by
      simp only [disposing, attemptAlone, attemptDisposal, shutDown, h]
    rw [Operation.run, Operation.await_of_pending hattempt]
    exact ih

/-- **A disposal on its own, attempt by attempt, is `Sender.dispose`.** -/
theorem run_disposing (s : Sender) : (disposing.run (.waiting, s)).2.2 = s.dispose := by
  unfold dispose
  rcases hgone : s.disposed with _ | _
  · -- the first attempt is the first of the shutdown
    have hattempt : disposing.attempt (.waiting, s) =
        disposing.attempt (.shutting, ⟨s.socket, true⟩) := by
      simp only [disposing, attemptAlone, attemptDisposal_of_usable hgone]
    have hrun : disposing.run (.waiting, s) = disposing.run (.shutting, ⟨s.socket, true⟩) := by
      unfold Operation.run
      rw [Operation.await.eq_def, Operation.await.eq_def disposing _ (.shutting, _), hattempt]
    rw [if_neg Bool.false_ne_true, hrun]
    exact run_shutting s.socket
  · have hattempt : disposing.attempt (.waiting, s) = (.ready (), .finished, s) := by
      simp [disposing, attemptAlone, attemptDisposal, hgone]
    rw [if_pos rfl, Operation.run, Operation.await_of_ready hattempt]

end Sender

namespace Sender

/-- What one attempt at a shutdown comes to. -/
inductive Shuts (s : Sender) : Disposal → Sender → List Event → Prop
  | waits {s' : Sender} (kept : s'.disposed = s.disposed) : Shuts s .shutting s' []
  /-- It is over, done or failed. -/
  | ends {s' : Sender} {e : Event} (isShutDown : e.isShutDown = true)
      (kept : s'.disposed = s.disposed) : Shuts s .finished s' [e]

theorem shuts_shutDown (s : Sender) :
    ∃ events, s.socket.journal.Gains s.shutDown.2.socket.journal events ∧
      Shuts s s.shutDown.1 s.shutDown.2 events := by
  unfold shutDown
  obtain ⟨socket, h, hg⟩ | ⟨e, socket, h, hg⟩ | ⟨socket, h, hg⟩ := Socket.gains_pollShutDown s.socket
  all_goals rw [h]
  · exact ⟨_, hg, .waits rfl⟩
  · exact ⟨_, hg.notice _, .ends rfl rfl⟩
  · exact ⟨_, hg, .ends rfl rfl⟩

end Sender

/-! ## Tasks -/

/-- Something that was started on a sender. -/
inductive Task where
  | write (w : Write)
  | disposal (stage : Disposal)
  /-- Whoever waited for it does so no longer. -/
  | abandoned

namespace Task

/-- Whether a task has its turn. -/
def hasTurn : Task → Bool
  | write w => w.stage.hasTurn
  | disposal .shutting => true
  | _ => false

/-- One attempt at a task. `busy` tells that another has its turn. -/
def attempt (busy : Bool) : Task → Sender → Task × Sender
  | write w, s => (write { w with stage := (s.attempt busy w).1 }, (s.attempt busy w).2)
  | disposal stage, s =>
    (disposal (Sender.attemptDisposal busy stage s).1, (Sender.attemptDisposal busy stage s).2)
  | abandoned, s => (abandoned, s)

/-- What one attempt does for a task. -/
inductive Attempts (busy : Bool) (s : Sender) : Task → Task → Sender → List Event → Prop
  | write {w : Write} {stage : Stage} {s' : Sender} {events : List Event}
      (sent : events.all isSent = true) (step : Sender.Attempts busy w s stage s' events) :
      Attempts busy s (.write w) (.write { w with stage }) s' events
  /-- A disposal that is over, or a task nobody waits for. -/
  | idles {t : Task} (settled : t = .disposal .finished ∨ t = .abandoned) : Attempts busy s t t s []
  | queues (turn : busy = true) : Attempts busy s (.disposal .waiting) (.disposal .waiting) s []
  | finds (turn : busy = false) (gone : s.disposed = true) :
      Attempts busy s (.disposal .waiting) (.disposal .finished) s []
  | disposes {stage : Disposal} {s' : Sender} {events : List Event} (turn : busy = false)
      (usable : s.disposed = false)
      (step : Sender.Shuts { s with disposed := true } stage s' events) :
      Attempts busy s (.disposal .waiting) (.disposal stage) s' events
  | goesOn {stage : Disposal} {s' : Sender} {events : List Event}
      (step : Sender.Shuts s stage s' events) :
      Attempts busy s (.disposal .shutting) (.disposal stage) s' events

theorem attempts_attempt (busy : Bool) (t : Task) (s : Sender) :
    ∃ events, s.socket.journal.Gains (t.attempt busy s).2.socket.journal events ∧
      Attempts busy s t (t.attempt busy s).1 (t.attempt busy s).2 events := by
  have hsame : s.socket.journal.Gains s.socket.journal [] := Journal.Gains.refl _
  rcases t with w | stage | _
  · obtain ⟨events, hg, ha⟩ := Sender.attempts_attempt busy w s
    exact ⟨events, hg, .write ((Sender.gainsOnly_attempt busy w s).all hg) ha⟩
  · cases stage with
    | waiting =>
      rcases busy with _ | _
      · rcases hgone : s.disposed with _ | _
        · obtain ⟨events, hg, hs⟩ := Sender.shuts_shutDown { s with disposed := true }
          have hattempt := Sender.attemptDisposal_of_usable hgone
          simp only [attempt, hattempt]
          exact ⟨events, hg, .disposes rfl hgone hs⟩
        · have hattempt : Sender.attemptDisposal false .waiting s = (.finished, s) := by
            simp [Sender.attemptDisposal, hgone]
          simp only [attempt, hattempt]
          exact ⟨[], hsame, .finds rfl hgone⟩
      · exact ⟨[], hsame, .queues rfl⟩
    | shutting =>
      obtain ⟨events, hg, hs⟩ := Sender.shuts_shutDown s
      exact ⟨events, hg, .goesOn hs⟩
    | finished => exact ⟨[], hsame, .idles (.inl rfl)⟩
  · exact ⟨[], hsame, .idles (.inr rfl)⟩

end Task

/-! ## Crews and deeds -/

/-- A sender, and the tasks started on it. -/
structure Crew where
  sender : Sender
  tasks : List Task
  /-- The task in whose attempt the sender became disposed. -/
  ender : Option Nat

/-- What may happen next. -/
inductive Deed where
  | write (token : Nat) (frame : Except WireError Bytes)
  | dispose
  /-- A task is attempted. If it waits for a lock that is free, it is let through
  or not. -/
  | poll (i : Nat) (admitted : Bool)
  | abandon (i : Nat)
  | fire (token : Nat)

namespace Crew

/-- A sender with nothing to do. -/
def of (s : Sender) : Crew := ⟨s, [], none⟩

/-- Everything that happened to the sender. -/
def journal (c : Crew) : Journal := c.sender.socket.journal

/-- Whether a task other than this one has its turn. -/
def busy (c : Crew) (i : Nat) : Bool := (c.tasks.eraseIdx i).any (·.hasTurn)

/-- The crew after an attempt at a task. -/
def attempt (c : Crew) (i : Nat) (admitted : Bool) (t : Task) : Crew :=
  let after := t.attempt (c.busy i || !admitted) c.sender
  { sender := after.2
    tasks := c.tasks.set i after.1
    ender := if !c.sender.disposed && after.2.disposed then some i else c.ender }

/-- The crew after a deed. -/
def step (c : Crew) : Deed → Crew
  | .write token frame => { c with tasks := c.tasks ++ [.write (Sender.newWrite token frame)] }
  | .dispose => { c with tasks := c.tasks ++ [.disposal .waiting] }
  | .poll i admitted => match c.tasks[i]? with
    | some t => c.attempt i admitted t
    | none => c
  | .abandon i => { c with tasks := c.tasks.set i .abandoned }
  | .fire token =>
    { c with sender := { c.sender with socket := c.sender.socket.record (.fired token) } }

/-- The crew after a run. -/
def run (c : Crew) (deeds : List Deed) : Crew := deeds.foldl step c

/-- The events of a deed. -/
def gained (c : Crew) (d : Deed) : List Event :=
  Journal.events ((c.step d).journal.drop c.journal.length)

theorem run_append (c : Crew) (a b : List Deed) : c.run (a ++ b) = (c.run a).run b :=
  List.foldl_append

theorem step_poll {c : Crew} {i : Nat} {t : Task} (ht : c.tasks[i]? = some t) (admitted : Bool) :
    c.step (.poll i admitted) = c.attempt i admitted t := by
  rw [step, ht]

theorem step_poll_of_none {c : Crew} {i : Nat} (ht : c.tasks[i]? = none) (admitted : Bool) :
    c.step (.poll i admitted) = c := by
  rw [step, ht]

theorem gained_of_gains {c : Crew} {d : Deed} {events : List Event}
    (h : c.journal.Gains (c.step d).journal events) : c.gained d = events := by
  obtain ⟨added, hj, rfl⟩ := h
  rw [gained, hj, List.drop_left]

theorem tasks_attempt_self {c : Crew} {i : Nat} {t : Task} (ht : c.tasks[i]? = some t)
    (admitted : Bool) : (c.attempt i admitted t).tasks[i]? =
      some (t.attempt (c.busy i || !admitted) c.sender).1 := by
  obtain ⟨hlt, _⟩ := List.getElem?_eq_some_iff.1 ht
  exact List.getElem?_set_self hlt

/-- **What a deed can do.** It attempts a task as `Task.Attempts` says, or the
socket sees nothing of it and the sender stays as it is. -/
inductive Does (c : Crew) : Deed → Crew → List Event → Prop
  | attempts {i : Nat} {admitted : Bool} {t t' : Task} {s' : Sender} {events : List Event}
      (there : c.tasks[i]? = some t)
      (step : Task.Attempts (c.busy i || !admitted) c.sender t t' s' events) :
      Does c (.poll i admitted)
        ⟨s', c.tasks.set i t', if !c.sender.disposed && s'.disposed then some i else c.ender⟩ events
  | misses {i : Nat} {admitted : Bool} (nobody : c.tasks[i]? = none) :
      Does c (.poll i admitted) c []
  | starts {d : Deed} {t : Task}
      (fresh : (∃ token frame, d = .write token frame ∧ t = .write (Sender.newWrite token frame)) ∨
        d = .dispose ∧ t = .disposal .waiting) :
      Does c d { c with tasks := c.tasks ++ [t] } []
  | abandons {i : Nat} : Does c (.abandon i) { c with tasks := c.tasks.set i .abandoned } []
  | fires {token : Nat} : Does c (.fire token)
      { c with sender := { c.sender with socket := c.sender.socket.record (.fired token) } } []

theorem does_step (c : Crew) (d : Deed) :
    c.journal.Gains (c.step d).journal (c.gained d) ∧ c.Does d (c.step d) (c.gained d) := by
  have key : ∃ events, c.journal.Gains (c.step d).journal events ∧ c.Does d (c.step d) events := by
    rcases d with ⟨token, frame⟩ | _ | ⟨i, admitted⟩ | i | token
    · exact ⟨[], .refl _, .starts (.inl ⟨token, frame, rfl, rfl⟩)⟩
    · exact ⟨[], .refl _, .starts (.inr ⟨rfl, rfl⟩)⟩
    · rcases ht : c.tasks[i]? with _ | t
      · rw [step_poll_of_none ht]
        exact ⟨[], .refl _, .misses ht⟩
      · obtain ⟨events, hg, ha⟩ := Task.attempts_attempt (c.busy i || !admitted) t c.sender
        rw [step_poll ht]
        exact ⟨events, hg, .attempts ht ha⟩
    · exact ⟨[], .refl _, .abandons⟩
    · exact ⟨[], ⟨[.fired token], rfl, rfl⟩, .fires⟩
  obtain ⟨events, hg, hd⟩ := key
  rw [gained_of_gains hg]
  exact ⟨hg, hd⟩

end Crew

end ProxyTunnel
