/-
Dialogues: what a client says and what it waits for.

A handshake is a value: the next thing to send, to wait for or to tell callers,
and how to go on after it. Nothing in it knows about sockets, waits or
cancellation. `Dialogue.run` drives it in a session. Facts that hold of every
handshake, whatever the environment does, are facts about `run`.
-/
import ProxyTunnel.Session

set_option autoImplicit false

namespace ProxyTunnel

/-- The client's side of a handshake whose answers are packages of type `α`. -/
inductive Dialogue (α : Type) where
  | finish (result : Except Failure Unit)
  | note (n : Notice) (next : Dialogue α)
  /-- Sends a frame, unless it cannot be encoded. -/
  | send (frame : Except WireError Bytes) (next : Dialogue α)
  | receive (next : α → Dialogue α)
  /-- Skips packages up to and with the first that satisfies `last`. -/
  | skipTo (last : α → Bool) (next : Dialogue α)

namespace Dialogue

variable {α : Type}

/-- Drives a dialogue in a session whose answers are framed by a rule. The
first failure ends it. -/
def run : Dialogue α → Option (Framing α) → Session → Except Failure Unit × Session
  | finish result, _, c => (result, c)
  | note n d, rule, c => d.run rule (c.note n)
  | send frame d, rule, c =>
    match c.send frame with
    | (.error e, c) => (.error e, c)
    | (.ok (), c) => d.run rule c
  | receive next, rule, c =>
    match c.receive rule with
    | (.error e, _, c) => (.error e, c)
    | (.ok content, rule, c) => (next content).run rule c
  | skipTo last d, rule, c =>
    match c.skipTo last rule with
    | (.error e, _, c) => (.error e, c)
    | (.ok (), rule, c) => d.run rule c

/-- A dialogue forgets nothing of what happened before it. -/
theorem follows_run (d : Dialogue α) (rule : Option (Framing α)) (c : Session) :
    c.Follows (d.run rule c).2 := by
  induction d generalizing rule c with
  | finish result => exact Session.Follows.refl c
  | note n d ih => exact (Session.follows_note n c).trans (ih rule _)
  | send frame d ih =>
    have h := Session.follows_send frame c
    unfold run
    split <;> rename_i heq <;> rw [heq] at h
    · exact h
    · exact h.trans (ih rule _)
  | receive next ih =>
    have h := Session.follows_receive rule c
    unfold run
    split <;> rename_i heq <;> rw [heq] at h
    · exact h
    · exact h.trans (ih _ _ _)
  | skipTo last d ih =>
    have h := Session.follows_skipTo last rule c
    unfold run
    split <;> rename_i heq <;> rw [heq] at h
    · exact h
    · exact h.trans (ih _ _)

end Dialogue

end ProxyTunnel
