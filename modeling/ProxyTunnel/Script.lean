/-
Scripts: what an environment does each time it is asked.

An operation that is not under our control (a read, a write, a flush, a
shutdown, the opening of a transport) follows a script of steps. Each attempt
takes the next step: it succeeds with a value, fails, or is not ready. A step
may also fire a cancellation token, which takes no time: the same attempt goes
on with the step after it. A script that has run out answers every attempt with
one fixed value.

A script is finite and every attempt that is not ready uses a step up. This is
why waiting ends (`Script.length_poll_lt`).
-/
import ProxyTunnel.Journal

set_option autoImplicit false

namespace ProxyTunnel

/-- One step of an environment. -/
inductive Step (α : Type) where
  | ready (value : α)
  | fail (e : SocketError)
  | pending
  | fire (token : Nat)

/-- The steps of an environment. -/
abbrev Script (α : Type) := List (Step α)

/-- The outcome of one attempt: a value, or not ready yet. -/
inductive Poll (α : Type) where
  | ready (value : α)
  | pending

/-- Maps the value of an attempt that was ready. -/
def Poll.map {α β : Type} (f : α → β) : Poll α → Poll β
  | ready value => ready (f value)
  | pending => pending

/-- An attempt that was not ready stays so. -/
@[simp] theorem Poll.map_eq_pending {α β : Type} {f : α → β} {p : Poll α} :
    p.map f = .pending ↔ p = .pending := by
  cases p <;> simp [Poll.map]

namespace Script

variable {α : Type}

/-- One attempt. Tokens fire, and a wait is recorded, in the journal; `rest` is
the answer of a script that has run out. -/
def poll (rest : α) : Script α → Journal → Poll (Except SocketError α) × Script α × Journal
  | [], journal => (.ready (.ok rest), [], journal)
  | .fire token :: script, journal => poll rest script (journal ++ [.fired token])
  | .pending :: script, journal => (.pending, script, journal ++ [.yielded])
  | .ready value :: script, journal => (.ready (.ok value), script, journal)
  | .fail e :: script, journal => (.ready (.error e), script, journal)

/-- An attempt only adds to the journal. -/
theorem journal_poll_grows (rest : α) (script : Script α) (journal : Journal) :
    journal <+: (poll rest script journal).2.2 := by
  induction script generalizing journal with
  | nil => exact List.prefix_refl _
  | cons step script ih =>
    cases step with
    | fire token => exact (List.prefix_append _ _).trans (ih _)
    | pending => exact List.prefix_append _ _
    | _ => exact List.prefix_refl _

/-- An attempt never makes a script longer. -/
theorem length_poll_le (rest : α) (script : Script α) (journal : Journal) :
    (poll rest script journal).2.1.length ≤ script.length := by
  induction script generalizing journal with
  | nil => simp [poll]
  | cons step script ih =>
    cases step with
    | fire token => exact Nat.le_succ_of_le (ih _)
    | _ => simp [poll]

/-- An attempt that was not ready has used a step up. -/
theorem length_poll_lt (rest : α) (script : Script α) (journal : Journal)
    (h : (poll rest script journal).1 = .pending) :
    (poll rest script journal).2.1.length < script.length := by
  induction script generalizing journal with
  | nil => simp [poll] at h
  | cons step script ih =>
    cases step with
    | fire token => exact Nat.lt_succ_of_lt (ih _ h)
    | _ => simp_all [poll]

/-- An attempt that failed has used a step up. -/
theorem length_poll_lt_of_error (rest : α) (script : Script α) (journal : Journal)
    {e : SocketError} (h : (poll rest script journal).1 = .ready (.error e)) :
    (poll rest script journal).2.1.length < script.length := by
  induction script generalizing journal with
  | nil => simp [poll] at h
  | cons step script ih =>
    cases step with
    | fire token => exact Nat.lt_succ_of_lt (ih _ h)
    | _ => simp_all [poll]

/-- An attempt that succeeded with anything but the answer of a script that has
run out has used a step up. -/
theorem length_poll_lt_of_ne (rest value : α) (script : Script α) (journal : Journal)
    (h : (poll rest script journal).1 = .ready (.ok value)) (hne : value ≠ rest) :
    (poll rest script journal).2.1.length < script.length := by
  induction script generalizing journal with
  | nil => simp_all [poll]
  | cons step script ih =>
    cases step with
    | fire token => exact Nat.lt_succ_of_lt (ih _ h)
    | _ => simp_all [poll]

end Script

/-! ## Waiting -/

/-- Something that can be attempted again and again on a state, and that uses
the state up whenever it is not ready. -/
structure Operation (σ α : Type) where
  attempt : σ → Poll α × σ
  patience : σ → Nat
  shrinks : ∀ s, (attempt s).1 = .pending → patience (attempt s).2 < patience s

/-- An operation whose value is put another way. -/
def Operation.map {σ α β : Type} (f : α → β) (op : Operation σ α) : Operation σ β where
  attempt s := ((op.attempt s).1.map f, (op.attempt s).2)
  patience := op.patience
  shrinks s h := op.shrinks s (by simpa using h)

/-- Attempts an operation until it is ready. After every attempt that was not,
`interrupt` may end the wait with an answer of its own. -/
def Operation.await {σ α : Type} (op : Operation σ α) (interrupt : σ → Option α) (s : σ) :
    α × σ :=
  match _h : op.attempt s with
  | (.ready value, s') => (value, s')
  | (.pending, s') =>
    match interrupt s' with
    | some value => (value, s')
    | none => op.await interrupt s'
termination_by op.patience s
decreasing_by
  have h := op.shrinks s (by rw [_h])
  rwa [_h] at h

/-- An operation that is ready at once keeps nobody waiting. -/
theorem Operation.await_of_ready {σ α : Type} {op : Operation σ α} {s s' : σ} {value : α}
    (h : op.attempt s = (.ready value, s')) (interrupt : σ → Option α) :
    op.await interrupt s = (value, s') := by
  rw [await]
  split <;> rename_i heq <;> rw [h] at heq <;> cases heq
  rfl

/-- One that is not ready is interrupted, or attempted again. -/
theorem Operation.await_of_pending {σ α : Type} {op : Operation σ α} {s s' : σ}
    (h : op.attempt s = (.pending, s')) (interrupt : σ → Option α) :
    op.await interrupt s =
      match interrupt s' with
      | some value => (value, s')
      | none => op.await interrupt s' := by
  rw [await]
  split <;> rename_i heq <;> rw [h] at heq <;> cases heq
  rfl

/-- What holds of the attempt that ends a wait, and of an interruption, and is
carried back over every attempt that was not ready, holds of the wait. -/
theorem Operation.await_rec {σ α : Type} (op : Operation σ α) (interrupt : σ → Option α)
    {motive : σ → α × σ → Prop}
    (ready : ∀ s value s', op.attempt s = (.ready value, s') → motive s (value, s'))
    (stopped : ∀ s value s', op.attempt s = (.pending, s') → interrupt s' = some value →
      motive s (value, s'))
    (again : ∀ s s' r, op.attempt s = (.pending, s') → interrupt s' = none → motive s' r →
      motive s r)
    (s : σ) : motive s (op.await interrupt s) := by
  fun_induction Operation.await op interrupt s with
  | case1 s value s' h => exact ready s value s' h
  | case2 s s' h value hi => exact stopped s value s' h hi
  | case3 s s' h hi ih => exact again s s' _ h hi ih

/-- A relation that every attempt keeps, from the state before it to the state
after it, is kept by the whole wait. -/
theorem Operation.await_keeps {σ α : Type} (op : Operation σ α) (interrupt : σ → Option α)
    (R : σ → σ → Prop) (trans : ∀ a b c, R a b → R b c → R a c)
    (step : ∀ s, R s (op.attempt s).2) (s : σ) : R s (op.await interrupt s).2 := by
  refine op.await_rec interrupt (motive := fun s r => R s r.2) ?_ ?_ ?_ s
  · intro s value s' h
    simpa [h] using step s
  · intro s value s' h _
    simpa [h] using step s
  · intro s s' r h _ ih
    exact trans s s' r.2 (by simpa [h] using step s) ih

/-- A wait that nothing interrupts. -/
def Operation.run {σ α : Type} (op : Operation σ α) (s : σ) : α × σ :=
  op.await (fun _ => none) s

end ProxyTunnel
