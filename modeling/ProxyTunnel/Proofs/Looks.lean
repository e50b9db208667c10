/-
Attempts to get a package, look by look.

An attempt shows its rule what is buffered; if the rule waits, it may read, and
if bytes arrive, it looks again (`Session.look`). So an attempt is a row of
looks (`Session.poll_eq`), and what a single look does, every attempt does, and
nothing else (`Session.poll_rec`). `Session.look_cases` lists what that can be.
-/
import ProxyTunnel.Proofs.Polls

set_option autoImplicit false

namespace ProxyTunnel

variable {α : Type}

namespace Session

/-- What one look comes to. There is no answer yet if bytes arrived and the rule
has to look again. -/
structure Glance (α : Type) where
  answer : Option (Poll (Option (Except Failure α)))
  rule : Option (Framing α)
  session : Session

/-- The rule waits, the end of the stream was not seen, and there is room. -/
structure Wants (rule : Framing α) (c : Session) : Prop where
  waits : (rule.cut c.buffer).answer = .waiting
  goesOn : c.ended = false
  room : c.buffer.length < c.limits.maxPackage

/-- The rule waits, the end of the stream was not seen, and there is no room. -/
structure Overfull (rule : Framing α) (c : Session) : Prop where
  waits : (rule.cut c.buffer).answer = .waiting
  goesOn : c.ended = false
  full : c.limits.maxPackage ≤ c.buffer.length

/-- What a read comes to, for a rule that waits. -/
def hear (rule : Framing α) (c : Session) : Glance α :=
  match c.tunnel.pollRead c.limits.room with
  | (.pending, tunnel) => ⟨some .pending, some rule, { c with tunnel }⟩
  | (.ready (.error e), tunnel) =>
    ⟨some (.ready (some (.error (.socket e)))), none, { c with tunnel }⟩
  | (.ready (.ok []), tunnel) => ⟨some (.ready none), some rule, { c with tunnel, ended := true }⟩
  | (.ready (.ok bytes), tunnel) => ⟨none, some rule, { c with tunnel, buffer := c.buffer ++ bytes }⟩

/-- Shows a rule what is buffered, and reads once if it waits. -/
def look (rule : Framing α) (c : Session) : Glance α :=
  match rule.cut c.buffer with
  | ⟨.package content successor, after, rest⟩ =>
    ⟨some (.ready (some (.ok content))), some (successor.getD after), { c with buffer := rest }⟩
  | ⟨.refused e, _, rest⟩ =>
    ⟨some (.ready (some (.error (.wire e)))), none, { c with buffer := rest }⟩
  | ⟨.waiting, after, _⟩ =>
    if c.ended then ⟨some (.ready none), some after, c⟩
    else if c.limits.maxPackage ≤ c.buffer.length then
      ⟨some (.ready (some (.error (.wire (.packageTooLarge c.limits.maxPackage))))), none, c⟩
    else c.hear after

/-- Everything that a look can come to. -/
theorem look_cases (rule : Framing α) (c : Session) :
    (∃ content successor after rest, rule.cut c.buffer = ⟨.package content successor, after, rest⟩ ∧
      c.look rule = ⟨some (.ready (some (.ok content))), some (successor.getD after),
        { c with buffer := rest }⟩) ∨
    (∃ e after rest, rule.cut c.buffer = ⟨.refused e, after, rest⟩ ∧
      c.look rule = ⟨some (.ready (some (.error (.wire e)))), none, { c with buffer := rest }⟩) ∨
    (∃ after rest, rule.cut c.buffer = ⟨.waiting, after, rest⟩ ∧ c.ended = true ∧
      c.look rule = ⟨some (.ready none), some after, c⟩) ∨
    (Overfull rule c ∧ c.look rule =
      ⟨some (.ready (some (.error (.wire (.packageTooLarge c.limits.maxPackage))))), none, c⟩) ∨
    (∃ after rest, rule.cut c.buffer = ⟨.waiting, after, rest⟩ ∧ Wants rule c ∧
      c.look rule = c.hear after) := by
  rcases hcut : rule.cut c.buffer with ⟨_ | ⟨content, successor⟩ | e, after, rest⟩
  · have hwaits : (rule.cut c.buffer).answer = .waiting := by rw [hcut]
    unfold look
    rw [hcut]
    dsimp only
    cases hended : c.ended with
    | true => exact .inr (.inr (.inl ⟨after, rest, rfl, rfl, if_pos rfl⟩))
    | false =>
      rw [if_neg Bool.false_ne_true]
      by_cases hfull : c.limits.maxPackage ≤ c.buffer.length
      · exact .inr (.inr (.inr (.inl ⟨⟨hwaits, hended, hfull⟩, if_pos hfull⟩)))
      · exact .inr (.inr (.inr (.inr
          ⟨after, rest, rfl, ⟨hwaits, hended, Nat.lt_of_not_le hfull⟩, if_neg hfull⟩)))
  · refine .inl ⟨content, successor, after, rest, rfl, ?_⟩
    rw [look, hcut]
  · refine .inr (.inl ⟨e, after, rest, rfl, ?_⟩)
    rw [look, hcut]

/-- Everything that a read can come to. -/
theorem hear_cases (rule : Framing α) (c : Session) :
    ((c.tunnel.pollRead c.limits.room).1 = .pending ∧ c.hear rule =
      ⟨some .pending, some rule, { c with tunnel := (c.tunnel.pollRead c.limits.room).2 }⟩) ∨
    (∃ e, (c.tunnel.pollRead c.limits.room).1 = .ready (.error e) ∧ c.hear rule =
      ⟨some (.ready (some (.error (.socket e)))), none,
        { c with tunnel := (c.tunnel.pollRead c.limits.room).2 }⟩) ∨
    ((c.tunnel.pollRead c.limits.room).1 = .ready (.ok []) ∧ c.hear rule =
      ⟨some (.ready none), some rule,
        { c with tunnel := (c.tunnel.pollRead c.limits.room).2, ended := true }⟩) ∨
    (∃ bytes, bytes ≠ [] ∧ (c.tunnel.pollRead c.limits.room).1 = .ready (.ok bytes) ∧
      c.hear rule = ⟨none, some rule,
        { c with tunnel := (c.tunnel.pollRead c.limits.room).2, buffer := c.buffer ++ bytes }⟩) := by
  unfold hear
  rcases c.tunnel.pollRead c.limits.room with ⟨(e | _ | ⟨b, bytes⟩) | _, tunnel⟩
  · exact .inr (.inl ⟨e, rfl, rfl⟩)
  · exact .inr (.inr (.inl ⟨rfl, rfl⟩))
  · exact .inr (.inr (.inr ⟨b :: bytes, List.cons_ne_nil _ _, rfl, rfl⟩))
  · exact .inl ⟨rfl, rfl⟩

/-- **An attempt is a look, and goes on like an attempt if bytes arrived.** -/
theorem poll_eq (rule : Framing α) (c : Session) :
    c.poll (some rule) =
      match (c.look rule).answer with
      | some answer => ⟨answer, (c.look rule).rule, (c.look rule).session, [⟨rule, c.buffer⟩]⟩
      | none => ((c.look rule).session.poll (c.look rule).rule).after ⟨rule, c.buffer⟩ := by
  rw [poll, look]
  rcases rule.cut c.buffer with ⟨_ | ⟨content, successor⟩ | e, after, rest⟩
  · dsimp only
    by_cases hended : c.ended = true
    · rw [if_pos hended, if_pos hended]
    rw [if_neg hended, if_neg hended]
    by_cases hfull : c.limits.maxPackage ≤ c.buffer.length
    · rw [if_pos hfull, if_pos hfull]
    rw [if_neg hfull, if_neg hfull, hear]
    split <;> rename_i hread <;> rw [hread]
    rename_i bytes _
    cases bytes with
    | nil => rfl
    | cons b bytes => rfl
  · rfl
  · rfl

/-- A look that brought bytes has shortened the backlog. -/
theorem backlog_look_lt {rule : Framing α} {c : Session} (h : (c.look rule).answer = none) :
    (c.look rule).session.tunnel.backlog < c.tunnel.backlog := by
  obtain ⟨_, _, _, _, _, hlook⟩ | ⟨_, _, _, _, hlook⟩ | ⟨_, _, _, _, hlook⟩ | ⟨_, hlook⟩ |
    ⟨after, _, _, _, hlook⟩ := look_cases rule c
  case inr.inr.inr.inr =>
    rw [hlook] at h ⊢
    obtain ⟨_, hhear⟩ | ⟨_, _, hhear⟩ | ⟨_, hhear⟩ | ⟨bytes, hne, hread, hhear⟩ := hear_cases after c
    case inr.inr.inr =>
      rw [hhear]
      apply Tunnel.backlog_pollRead_lt
      rw [hread]
      exact hne
    all_goals
      rw [hhear] at h
      cases h
  all_goals
    rw [hlook] at h
    cases h

/-- **What holds of every look that ends an attempt, and is carried back over every
look that does not, holds of the attempt.** -/
theorem poll_rec {motive : Option (Framing α) → Session → Polled α → Prop}
    (ended : ∀ c, motive none c ⟨.ready none, none, c, []⟩)
    (ends : ∀ rule c answer, (c.look rule).answer = some answer →
      motive (some rule) c
        ⟨answer, (c.look rule).rule, (c.look rule).session, [⟨rule, c.buffer⟩]⟩)
    (again : ∀ rule c p, (c.look rule).answer = none →
      motive (c.look rule).rule (c.look rule).session p →
      motive (some rule) c (p.after ⟨rule, c.buffer⟩))
    (rule : Option (Framing α)) (c : Session) : motive rule c (c.poll rule) := by
  induction hbacklog : c.tunnel.backlog using Nat.strongRecOn generalizing rule c with
  | ind backlog ih =>
    cases rule with
    | none =>
      rw [poll]
      exact ended c
    | some rule =>
      rw [poll_eq]
      cases hanswer : (c.look rule).answer with
      | some answer => exact ends rule c answer hanswer
      | none =>
        have hless := backlog_look_lt hanswer
        exact again rule c _ hanswer (ih _ (hbacklog ▸ hless) _ _ rfl)

/-- An attempt with this rule and this session comes to look with that rule at that
session. -/
inductive Looks : Option (Framing α) → Session → Framing α → Session → Prop
  | now (rule : Framing α) (c : Session) : Looks (some rule) c rule c
  | again {rule r : Framing α} {c d : Session} (brought : (c.look rule).answer = none)
      (later : Looks (c.look rule).rule (c.look rule).session r d) : Looks (some rule) c r d

/-- What one of its looks comes to, an attempt comes to. -/
theorem Looks.answer_poll {rule : Option (Framing α)} {r : Framing α} {c d : Session}
    (h : Looks rule c r d) {answer : Poll (Option (Except Failure α))}
    (hlook : (d.look r).answer = some answer) : (c.poll rule).answer = answer := by
  induction h with
  | now rule c => rw [poll_eq, hlook]
  | again brought _ ih =>
    rw [poll_eq, brought]
    exact ih hlook

/-- **An attempt comes to a package or an error exactly if one of its looks does.** -/
theorem answer_poll_iff (rule : Option (Framing α)) (c : Session) (result : Except Failure α) :
    (c.poll rule).answer = .ready (some result) ↔
      ∃ r d, Looks rule c r d ∧ (d.look r).answer = some (.ready (some result)) := by
  refine ⟨?_, fun ⟨_, _, hlooks, hlook⟩ => hlooks.answer_poll hlook⟩
  refine poll_rec (motive := fun rule c p => p.answer = .ready (some result) →
    ∃ r d, Looks rule c r d ∧ (d.look r).answer = some (.ready (some result))) ?_ ?_ ?_ rule c
  · exact fun c h => nomatch h
  · intro rule c answer hlook hanswer
    exact ⟨rule, c, .now rule c, hlook.trans (congrArg some hanswer)⟩
  · intro rule c p hbrought ih hanswer
    obtain ⟨r, d, hlooks, hlook⟩ := ih hanswer
    exact ⟨r, d, .again hbrought hlooks, hlook⟩

end Session

end ProxyTunnel
