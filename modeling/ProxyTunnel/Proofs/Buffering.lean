/-
How much is buffered, and how a stream of packages ends.

Before a session reads it looks for reasons not to: a whole frame, an error, the
end of the stream, a full buffer. The order of these looks is what bounds the
buffer, keeps a session from reading behind the end, and tells a frame that is
too large from one that is late. Each is a fact about a single look
(`Session.look_cases`), and whatever every look keeps holds after any number of
attempts, streams and writes (`Session.Course.uses_keep`).

A stream whose frames are all within the limit never makes its session report a
package that is too large, however it arrives (`Session.Suits`): a rule that
still waits has not seen all of a frame.
-/
import ProxyTunnel.Proofs.Conservation
import ProxyTunnel.Proofs.Listening
import ProxyTunnel.Proofs.Looks
import ProxyTunnel.Proofs.Moderate

set_option autoImplicit false

namespace ProxyTunnel

open Event

variable {α : Type}

/-! ## How often the end was read -/

namespace Journal

/-- How many reads of a journal brought no bytes. -/
def ends (journal : Journal) : Nat := journal.events.count (.read 0)

variable {a b : Journal} {events : List Event}

theorem Gains.ends_eq (h : a.Gains b events) : b.ends = a.ends + events.count (.read 0) := by
  simp [ends, h.events_eq]

/-- Sending reads nothing, not even the end. -/
theorem GainsOnly.ends_eq (h : a.GainsOnly isSent b) : b.ends = a.ends := by
  obtain ⟨events, hgains, hall⟩ := h
  have hnone : events.count (.read 0) = 0 := by
    rw [List.count_eq_zero]
    intro hread
    exact absurd (List.all_eq_true.1 hall _ hread) (by decide)
  rw [hgains.ends_eq, hnone, Nat.add_zero]

end Journal

namespace Tunnel

/-- Whether a read found the end of the stream. -/
def foundEnd : Poll (Except SocketError Bytes) → Bool
  | .ready (.ok []) => true
  | _ => false

/-- A read with room finds the end exactly if its journal says so. -/
theorem ends_pollRead {room : Nat} (hroom : 0 < room) (t : Tunnel) :
    (t.pollRead room).2.socket.journal.ends =
      t.socket.journal.ends + (foundEnd (t.pollRead room).1).toNat := by
  have h := Script.gains_poll [] t.socket.reads t.socket.journal
  unfold pollRead Socket.pollRead
  by_cases hnone : t.replay.isEmpty
  · rw [if_pos hnone]
    dsimp only
    split <;> rename_i heq <;> rw [heq] at h
    · simpa [foundEnd] using h.ends_eq
    · simpa [foundEnd] using (h.event (.readFailed _)).ends_eq
    · rename_i bytes _ _
      have hends := (h.event (.read (bytes.take room).length)).ends_eq
      rw [hends]
      cases bytes with
      | nil => simp [foundEnd]
      | cons b bytes =>
        obtain ⟨k, rfl⟩ := Nat.exists_eq_succ_of_ne_zero (Nat.ne_of_gt hroom)
        simp [foundEnd]
  · rw [if_neg hnone]
    obtain ⟨b, bytes, hreplay⟩ : ∃ b bytes, t.replay = b :: bytes := by
      cases hr : t.replay with
      | nil => simp [hr] at hnone
      | cons b bytes => exact ⟨b, bytes, rfl⟩
    obtain ⟨k, rfl⟩ := Nat.exists_eq_succ_of_ne_zero (Nat.ne_of_gt hroom)
    simp [hreplay, foundEnd]

/-- A read brings no more than it has room for. -/
theorem length_pollRead_le (room : Nat) (t : Tunnel) :
    (Socket.received (t.pollRead room).1).length ≤ room := by
  unfold pollRead Socket.pollRead
  split
  · dsimp only
    split
    · exact Nat.zero_le _
    · exact Nat.zero_le _
    · exact List.length_take_le _ _
  · exact List.length_take_le _ _

end Tunnel

namespace Session

/-! ## What every look keeps -/

/-- What every look keeps, every attempt keeps up to each of its looks. -/
theorem Looks.keeps {P : Option (Framing α) → Session → Prop}
    (hlook : ∀ rule c, P (some rule) c → P (c.look rule).rule (c.look rule).session)
    {rule : Option (Framing α)} {r : Framing α} {c d : Session} (h : Looks rule c r d)
    (hp : P rule c) : P (some r) d := by
  induction h with
  | now rule c => exact hp
  | again _ _ ih => exact ih (hlook _ _ hp)

/-- And to its end. -/
theorem poll_keeps {P : Option (Framing α) → Session → Prop}
    (hlook : ∀ rule c, P (some rule) c → P (c.look rule).rule (c.look rule).session)
    {rule : Option (Framing α)} {c : Session} (hp : P rule c) :
    P (c.poll rule).rule (c.poll rule).session := by
  revert hp
  refine poll_rec (motive := fun rule c p => P rule c → P p.rule p.session) ?_ ?_ ?_ rule c
  · exact fun _ hp => hp
  · exact fun rule c _ _ hp => hlook rule c hp
  · exact fun rule c _ _ ih hp => ih (hlook rule c hp)

/-- What every look and every aside keep, a stream keeps however often it moves. -/
theorem Stream.moves_keep {P : Option (Framing α) → Session → Prop}
    (hlook : ∀ rule c, P (some rule) c → P (c.look rule).rule (c.look rule).session)
    (haside : ∀ rule c a, P rule c → P rule (c.aside a)) {s : Stream α}
    (hp : P s.rule s.session) (moves : List Move) :
    P (moves.foldl move s).rule (moves.foldl move s).session := by
  induction moves generalizing s with
  | nil => exact hp
  | cons m moves ih =>
    cases m with
    | ask => exact ih (poll_keeps hlook hp)
    | aside a => exact ih (haside _ _ a hp)

/-- So does a session, whatever it is used for. -/
theorem Course.uses_keep {P : Session → Prop}
    (hlook : ∀ {α : Type} (rule : Framing α) c, P c → P (c.look rule).session)
    (haside : ∀ c a, P c → P (c.aside a)) {course : Course} (hp : P course.session)
    (uses : List Use) : P (uses.foldl use course).session := by
  induction uses generalizing course with
  | nil => exact hp
  | cons u uses ih =>
    cases u with
    | stream rule moves =>
      exact ih (Stream.moves_keep (P := fun _ c => P c) (fun _ _ => hlook _ _)
        (fun _ _ => haside _) hp moves)
    | aside a => exact ih (haside _ a hp)

end Session

/-! ## The buffer is bounded -/

/-- The most that is ever buffered: a read that starts with room for one byte more
may bring all it has room for. -/
def Limits.most (limits : Limits) : Nat :=
  if limits.maxPackage = 0 then 0 else limits.maxPackage - 1 + limits.room

namespace Session

/-- The limits of a session are those it started with, its buffer is bounded by
them, and its journal shows one end of the stream if it has seen it. -/
structure Within (limits : Limits) (ends : Nat) (c : Session) : Prop where
  limits_eq : c.limits = limits
  buffer_le : c.buffer.length ≤ limits.most
  ends_eq : c.journal.ends = ends + c.ended.toNat

variable {limits : Limits} {ends : Nat} {rule : Framing α} {c : Session}

/-- Cutting a frame off makes a buffer no longer. -/
theorem length_rest_le (rule : Framing α) (buffer : Bytes) :
    (rule.cut buffer).rest.length ≤ buffer.length := by
  obtain ⟨frame, hbuffer, _⟩ := rule.removes_cut buffer
  have hlength := congrArg List.length hbuffer
  rw [List.length_append] at hlength
  omega

theorem Within.hear (h : c.Within limits ends) (hwants : Wants rule c) (after : Framing α) :
    (c.hear after).session.Within limits ends := by
  have hends : (c.tunnel.pollRead c.limits.room).2.socket.journal.ends =
      ends + (Tunnel.foundEnd (c.tunnel.pollRead c.limits.room).1).toNat := by
    rw [Tunnel.ends_pollRead (room_pos c.limits)]
    change c.journal.ends + _ = _
    rw [h.ends_eq, hwants.goesOn]
    rfl
  have hlength := Tunnel.length_pollRead_le c.limits.room c.tunnel
  have hopen := hwants.goesOn
  obtain ⟨hread, hhear⟩ | ⟨_, hread, hhear⟩ | ⟨hread, hhear⟩ | ⟨bytes, hne, hread, hhear⟩ :=
    hear_cases after c
  all_goals
    rw [hhear]
    rw [hread] at hends hlength
  · exact ⟨h.limits_eq, h.buffer_le, by rw [hopen]; exact hends⟩
  · exact ⟨h.limits_eq, h.buffer_le, by rw [hopen]; exact hends⟩
  · exact ⟨h.limits_eq, h.buffer_le, hends⟩
  · -- there was room for one byte more, and the read brings at most a read's room
    have hnotEnd : Tunnel.foundEnd (.ready (.ok bytes)) = false := by
      cases bytes with
      | nil => exact absurd rfl hne
      | cons b bytes => rfl
    rw [hnotEnd] at hends
    refine ⟨h.limits_eq, ?_, by rw [hopen]; exact hends⟩
    have hroom := hwants.room
    rw [h.limits_eq] at hroom hlength
    rw [List.length_append, Limits.most, if_neg (by omega)]
    change bytes.length ≤ _ at hlength
    omega

theorem Within.look (h : c.Within limits ends) (rule : Framing α) :
    (c.look rule).session.Within limits ends := by
  have hrest : (rule.cut c.buffer).rest.length ≤ limits.most :=
    Nat.le_trans (length_rest_le rule c.buffer) h.buffer_le
  obtain ⟨_, _, _, rest, hcut, hlook⟩ | ⟨_, _, rest, hcut, hlook⟩ | ⟨_, _, _, _, hlook⟩ |
    ⟨_, hlook⟩ | ⟨after, _, _, hwants, hlook⟩ := look_cases rule c
  · rw [hcut] at hrest
    rw [hlook]
    exact ⟨h.limits_eq, hrest, h.ends_eq⟩
  · rw [hcut] at hrest
    rw [hlook]
    exact ⟨h.limits_eq, hrest, h.ends_eq⟩
  · rw [hlook]
    exact h
  · rw [hlook]
    exact h
  · rw [hlook]
    exact h.hear hwants after

/-- An aside buffers nothing and reads nothing. -/
theorem aside_eq (a : Aside) (c : Session) : (c.aside a).limits = c.limits ∧
    (c.aside a).buffer = c.buffer ∧ (c.aside a).ended = c.ended ∧
    (c.aside a).tunnel.replay = c.tunnel.replay ∧
    (c.aside a).tunnel.socket.reads = c.tunnel.socket.reads ∧
    (c.aside a).journal.ends = c.journal.ends := by
  cases a with
  | send frame =>
    have hsent := Sender.gainsOnly_send c.supervised c.token frame c.sender
    exact ⟨rfl, rfl, rfl, rfl, Sender.reads_send c.supervised c.token frame c.sender, hsent.ends_eq⟩
  | attempt busy w =>
    have hsent := Sender.gainsOnly_attempt busy w c.sender
    exact ⟨rfl, rfl, rfl, rfl, Sender.reads_attempt busy w c.sender, hsent.ends_eq⟩
  | fire token =>
    have hgains : c.journal.Gains (c.aside (.fire token)).journal [] := ⟨[.fired token], rfl, rfl⟩
    exact ⟨rfl, rfl, rfl, rfl, rfl, hgains.ends_eq⟩

theorem Within.aside (h : c.Within limits ends) (a : Aside) : (c.aside a).Within limits ends := by
  obtain ⟨hlimits, hbuffer, hended, _, _, hends⟩ := aside_eq a c
  refine ⟨hlimits.trans h.limits_eq, ?_, ?_⟩
  · rw [hbuffer]
    exact h.buffer_le
  · rw [hends, hended]
    exact h.ends_eq

/-- A look within limits that reads if its rule wants to, once, with the room the
limits give, and leaves the tunnel alone otherwise. -/
structure Attentive (limits : Limits) (rule : Framing α) (c : Session) : Prop where
  limits_eq : c.limits = limits
  buffer_le : c.buffer.length ≤ limits.most
  reads : Wants rule c → (c.look rule).session.tunnel = (c.tunnel.pollRead limits.room).2
  still : ¬ Wants rule c → (c.look rule).session.tunnel = c.tunnel

theorem Within.attentive (h : c.Within limits ends) (rule : Framing α) :
    Attentive limits rule c := by
  refine ⟨h.limits_eq, h.buffer_le, ?_, ?_⟩
  · intro hwants
    obtain ⟨_, _, _, _, hcut, _⟩ | ⟨_, _, _, hcut, _⟩ | ⟨_, _, _, hended, _⟩ | ⟨hfull, _⟩ |
      ⟨after, _, _, _, hlook⟩ := look_cases rule c
    · have hwaits := hwants.waits
      rw [hcut] at hwaits
      cases hwaits
    · have hwaits := hwants.waits
      rw [hcut] at hwaits
      cases hwaits
    · rw [hwants.goesOn] at hended
      cases hended
    · exact absurd hwants.room (Nat.not_lt_of_le hfull.full)
    · rw [hlook, ← h.limits_eq]
      obtain ⟨_, hhear⟩ | ⟨_, _, hhear⟩ | ⟨_, hhear⟩ | ⟨_, _, _, hhear⟩ := hear_cases after c
      all_goals rw [hhear]
  · intro hnot
    obtain ⟨_, _, _, _, _, hlook⟩ | ⟨_, _, _, _, hlook⟩ | ⟨_, _, _, _, hlook⟩ | ⟨_, hlook⟩ |
      ⟨_, _, _, hwants, _⟩ := look_cases rule c
    case inr.inr.inr.inr => exact absurd hwants hnot
    all_goals rw [hlook]

/-! ## Packages that are too large -/

/-- The answer that says a package is too large. -/
def tooLarge (size : Nat) : Option (Poll (Option (Except Failure α))) :=
  some (.ready (some (.error (.wire (.packageTooLarge size)))))

/-- **A look says so exactly if the rule says so itself, or the rule waits, the end
was not seen and the buffer is full.** -/
theorem look_eq_tooLarge_iff (rule : Framing α) (c : Session) (size : Nat) :
    (c.look rule).answer = tooLarge size ↔
      (rule.cut c.buffer).answer = .refused (.packageTooLarge size) ∨
        Overfull rule c ∧ size = c.limits.maxPackage := by
  have hnotFull : ∀ answer, (rule.cut c.buffer).answer = answer → answer ≠ .waiting →
      ¬ Overfull rule c := fun _ hcut hne hfull => hne (hcut.symm.trans hfull.waits)
  obtain ⟨content, _, _, _, hcut, hlook⟩ | ⟨e, _, _, hcut, hlook⟩ | ⟨_, _, hcut, hended, hlook⟩ |
    ⟨hfull, hlook⟩ | ⟨after, _, hcut, hwants, hlook⟩ := look_cases rule c
  · have hfull := hnotFull _ (congrArg Framing.Cut.answer hcut) nofun
    rw [hlook, hcut]
    simp [tooLarge, hfull]
  · have hfull := hnotFull _ (congrArg Framing.Cut.answer hcut) nofun
    rw [hlook, hcut]
    simp [tooLarge, hfull]
  · have hfull : ¬ Overfull rule c := fun hfull => by simp [hfull.goesOn] at hended
    rw [hlook, hcut]
    simp [tooLarge, hfull]
  · rw [hlook, hfull.waits]
    simp [tooLarge, hfull, eq_comm]
  · -- nothing that a read can come to says that a package is too large
    have hfull : ¬ Overfull rule c := fun hfull => Nat.not_lt_of_le hfull.full hwants.room
    rw [hlook, hcut]
    obtain ⟨_, hhear⟩ | ⟨_, _, hhear⟩ | ⟨_, hhear⟩ | ⟨_, _, _, hhear⟩ := hear_cases after c
    all_goals
      rw [hhear]
      simp [tooLarge, hfull]

/-- So does an attempt, at one of its looks. -/
theorem answer_poll_eq_tooLarge_iff (rule : Option (Framing α)) (c : Session) (size : Nat) :
    (c.poll rule).answer = .ready (some (.error (.wire (.packageTooLarge size)))) ↔
      ∃ r d, Looks rule c r d ∧ ((r.cut d.buffer).answer = .refused (.packageTooLarge size) ∨
        Overfull r d ∧ size = d.limits.maxPackage) := by
  rw [answer_poll_iff]
  refine exists_congr fun r => exists_congr fun d => and_congr_right fun _ => ?_
  exact look_eq_tooLarge_iff r d size

/-- What a session must still receive of a moderate stream: its rule goes on where
a new rule begins on the whole of it, or all of it is short. -/
structure Suits (most : Nat) (rule : Option (Framing α)) (c : Session) : Prop where
  limit : c.limits.maxPackage = most
  rest : ∀ r, rule = some r → c.stream.length < most ∨
    r.Resumes c.buffer ∧ Framing.Moderate most r.restart c.stream

/-- **Such a session is never overfull.** -/
theorem Suits.not_overfull {most : Nat} (h : Suits most (some rule) c) : ¬ Overfull rule c := by
  rintro ⟨hwaits, _, hfull⟩
  rw [h.limit] at hfull
  have hbuffer : c.buffer.length ≤ c.stream.length := by
    rw [stream, List.length_append]
    omega
  obtain hshort | ⟨hresumes, hmoderate⟩ := h.rest rule rfl
  · omega
  · obtain hshort | ⟨⟨size, hextent, hsize⟩, _⟩ := hmoderate.step
    · omega
    · -- a new rule waits as well, so the first frame is longer than the buffer
      rw [(Framing.cut_of_resumes hresumes).1] at hwaits
      have hless := Framing.length_lt_extent hmoderate.new hwaits hextent
      omega

/-- What a rule makes of a full frame in the buffer, it makes of the stream. -/
theorem Suits.package {most : Nat} (h : Suits most (some rule) c) {content : α}
    {successor : Option (Framing α)} {after : Framing α} {rest : Bytes}
    (hcut : rule.cut c.buffer = ⟨.package content successor, after, rest⟩) :
    Suits most (some (successor.getD after)) { c with buffer := rest } := by
  have hlength : rest.length ≤ c.buffer.length := by
    have hrest := length_rest_le rule c.buffer
    rwa [hcut] at hrest
  have hstream : ({ c with buffer := rest } : Session).stream.length ≤ c.stream.length := by
    rw [stream, stream, List.length_append, List.length_append]
    exact Nat.add_le_add_right hlength _
  refine ⟨h.limit, ?_⟩
  rintro r ⟨⟩
  obtain hshort | ⟨hresumes, hmoderate⟩ := h.rest rule rfl
  · exact .inl (Nat.lt_of_le_of_lt hstream hshort)
  obtain ⟨hanswer, hrest, hrestart, hagain⟩ := Framing.cut_of_resumes hresumes
  rw [hcut] at hanswer hrest hrestart hagain
  dsimp only at hanswer hrest
  -- a new rule cuts the same package off the whole stream
  have hwhole : rule.restart.cut c.stream =
      ⟨.package content successor, (rule.restart.cut c.buffer).framing, rest ++ c.tunnel.unread⟩ := by
    refine Framing.cut_append_of_package hmoderate.new ?_ _
    rw [hanswer, hrest]
  obtain hshort | ⟨_, hnext⟩ := hmoderate.step
  · exact .inl (Nat.lt_of_le_of_lt hstream hshort)
  obtain ⟨hmore, hnew⟩ := hnext content successor (congrArg Framing.Cut.answer hwhole)
  rw [hwhole] at hmore
  refine .inr ?_
  cases successor with
  | none => exact ⟨hagain, hrestart ▸ hmore⟩
  | some r =>
    have hsame := hnew r rfl
    refine ⟨?_, ?_⟩
    · have hstarts := Framing.resumes_restart r rest
      rwa [hsame] at hstarts
    · change Framing.Moderate most r.restart _
      rw [hsame]
      exact hmore

/-- As long as the stream stays the same, a rule that waits may go on. -/
theorem Suits.waits {most : Nat} (h : Suits most (some rule) c) {after : Framing α} {rest : Bytes}
    (hcut : rule.cut c.buffer = ⟨.waiting, after, rest⟩) {d : Session} (hlimits : d.limits = c.limits)
    {more : Bytes} (hbuffer : d.buffer = c.buffer ++ more) (hstream : d.stream = c.stream) :
    Suits most (some after) d := by
  refine ⟨hlimits ▸ h.limit, ?_⟩
  rintro r ⟨⟩
  rw [hstream]
  refine (h.rest rule rfl).imp_right ?_
  rintro ⟨hresumes, hmoderate⟩
  obtain ⟨_, hrestart, hagain⟩ := Framing.resumed_of_waiting hresumes hcut
  have hstart : after.restart = rule.restart := Option.some.inj hrestart
  rw [hstart, hbuffer]
  exact ⟨(hagain after rfl).append more, hmoderate⟩

/-- Nothing is asked of a stream that has ended for good. -/
theorem suits_none {most : Nat} {c : Session} (hlimit : c.limits.maxPackage = most) :
    Suits most (none : Option (Framing α)) c :=
  ⟨hlimit, nofun⟩

theorem Suits.look {most : Nat} (h : Suits most (some rule) c) :
    Suits most (c.look rule).rule (c.look rule).session := by
  obtain ⟨_, _, _, _, hcut, hlook⟩ | ⟨_, _, _, _, hlook⟩ | ⟨after, _, hcut, _, hlook⟩ |
    ⟨_, hlook⟩ | ⟨after, _, hcut, _, hlook⟩ := look_cases rule c
  · rw [hlook]
    exact h.package hcut
  · rw [hlook]
    exact suits_none h.limit
  · rw [hlook]
    exact h.waits hcut rfl (List.append_nil _).symm rfl
  · rw [hlook]
    exact suits_none h.limit
  · -- what a read takes from the tunnel goes into the buffer
    have hunread := Tunnel.unread_pollRead c.limits.room c.tunnel
    rw [hlook]
    obtain ⟨hread, hhear⟩ | ⟨_, hread, hhear⟩ | ⟨hread, hhear⟩ | ⟨bytes, _, hread, hhear⟩ :=
      hear_cases after c
    all_goals
      rw [hhear]
      rw [hread] at hunread
    · exact h.waits hcut rfl (List.append_nil _).symm (congrArg (c.buffer ++ ·) hunread.symm)
    · exact suits_none h.limit
    · exact h.waits hcut rfl (List.append_nil _).symm (congrArg (c.buffer ++ ·) hunread.symm)
    · refine h.waits hcut rfl rfl ?_
      change c.buffer ++ bytes ++ _ = c.buffer ++ _
      rw [hunread, List.append_assoc]
      rfl

theorem Suits.aside {most : Nat} {rule : Option (Framing α)} (h : Suits most rule c) (a : Aside) :
    Suits most rule (c.aside a) := by
  obtain ⟨hlimits, hbuffer, _, hreplay, hreads, _⟩ := aside_eq a c
  have hstream : (c.aside a).stream = c.stream := by
    rw [stream, stream, Tunnel.unread, Tunnel.unread, Socket.unread, Socket.unread, hbuffer,
      hreplay, hreads]
  refine ⟨hlimits ▸ h.limit, ?_⟩
  rw [hstream, hbuffer]
  exact h.rest

/-! ## Frames that are there, and streams that are over -/

/-- Calls for the next package, one after the other, and what they came to. -/
def nexts : Nat → Option (Framing α) → Session →
    List (Option (Except Failure α)) × Option (Framing α) × Session
  | 0, rule, c => ([], rule, c)
  | n + 1, rule, c =>
    ((c.next rule).1 :: (nexts n (c.next rule).2.1 (c.next rule).2.2).1,
      (nexts n (c.next rule).2.1 (c.next rule).2.2).2)

/-- **Frames that are buffered are delivered**, whether the end was seen or not,
without a look at the socket. -/
theorem nexts_of_cuts {rule last : Framing α} {buffer left : Bytes} {contents : List α}
    (h : Framing.Cuts rule buffer contents last left) {c : Session} (hbuffer : c.buffer = buffer) :
    nexts contents.length (some rule) c =
      (contents.map (some ∘ Except.ok), some last, { c with buffer := left }) := by
  induction h generalizing c with
  | done rule buffer =>
    subst hbuffer
    rfl
  | cut first others ih =>
    subst hbuffer
    have hnext := next_of_package first
    rw [List.length_cons, nexts, hnext]
    dsimp only
    rw [ih rfl]
    rfl

/-- A stream is over: it has no rule, or the end was seen and its rule waits. -/
inductive Over : Option (Framing α) → Session → Prop
  | failed (c : Session) : Over none c
  | closed {rule : Framing α} {c : Session} (seen : c.ended = true)
      (waits : rule.cut c.buffer = ⟨.waiting, rule, c.buffer⟩) : Over (some rule) c

/-- A call for the next package that gets no package ends the stream. -/
theorem over_next {rule : Option (Framing α)} {c : Session}
    (h : ∀ content, (c.next rule).1 ≠ some (.ok content)) :
    Over (c.next rule).2.1 (c.next rule).2.2 := by
  fun_induction next rule c with
  | case1 c => exact .failed c
  | case2 c rule content => exact absurd rfl (h content)
  | case3 c => exact .failed _
  | case4 c rule after rest hcut hended => exact .closed hended (Framing.cut_of_waiting hcut)
  | case5 c => exact .failed c
  | case6 c => exact .failed _
  | case7 c rule after rest hcut => exact .closed rfl (Framing.cut_of_waiting hcut)
  | case8 c rule after rest hcut hended hfull bytes tunnel hfetch hne ih => exact ih h

/-- So does an attempt that is ready without a package. -/
theorem over_poll {rule : Option (Framing α)} {c : Session}
    (hready : (c.poll rule).answer ≠ .pending)
    (h : ∀ content, (c.poll rule).answer ≠ .ready (some (.ok content))) :
    Over (c.poll rule).rule (c.poll rule).session := by
  fun_induction poll rule c with
  | case1 c => exact .failed c
  | case2 c rule content => exact absurd rfl (h content)
  | case3 c => exact .failed _
  | case4 c rule after rest hcut hended => exact .closed hended (Framing.cut_of_waiting hcut)
  | case5 c => exact .failed c
  | case6 c => exact absurd rfl hready
  | case7 c => exact .failed _
  | case8 c rule after rest hcut => exact .closed rfl (Framing.cut_of_waiting hcut)
  | case9 c rule after rest hcut hended hfull bytes tunnel hpoll hne ih => exact ih hready h

/-- Asking a stream that is over is answered at once, and changes nothing. -/
theorem Over.poll {rule : Option (Framing α)} {c : Session} (h : Over rule c) :
    (c.poll rule).answer = .ready none ∧ (c.poll rule).rule = rule ∧
      (c.poll rule).session = c := by
  cases h with
  | failed => exact ⟨by rw [Session.poll], by rw [Session.poll], by rw [Session.poll]⟩
  | @closed rule c seen waits =>
    have hlook : c.look rule = ⟨some (.ready none), some rule, c⟩ := by
      rw [Session.look, waits]
      exact if_pos seen
    rw [poll_eq, hlook]
    exact ⟨rfl, rfl, rfl⟩

theorem Over.next {rule : Option (Framing α)} {c : Session} (h : Over rule c) :
    c.next rule = (none, rule, c) := by
  obtain ⟨hanswer, hrule, hsession⟩ := h.poll
  rw [next_eq, hanswer, hrule, hsession]

theorem Over.aside {rule : Option (Framing α)} {c : Session} (h : Over rule c) (a : Aside) :
    Over rule (c.aside a) := by
  cases h with
  | failed => exact .failed _
  | closed seen waits =>
    obtain ⟨_, hbuffer, hended, _⟩ := aside_eq a c
    exact .closed (hended.trans seen) (by rw [hbuffer, waits])

/-- Whatever happens later, a stream that is over stays over. -/
theorem Over.moves {s : Stream α} (h : Over s.rule s.session) (moves : List Move) :
    Over (moves.foldl Stream.move s).rule (moves.foldl Stream.move s).session := by
  induction moves generalizing s with
  | nil => exact h
  | cons m moves ih =>
    cases m with
    | ask =>
      obtain ⟨_, hrule, hsession⟩ := h.poll
      apply ih
      change Over (s.session.poll s.rule).rule (s.session.poll s.rule).session
      rw [hrule, hsession]
      exact h
    | aside a => exact ih (h.aside a)

/-- **What is buffered is bounded, and streams end for good.** For every tunnel a
session starts on, all limits and all uses, and every stream opened then, wherever
its moves have taken it:

* no more is buffered than the limits give, and reads have found the end of the
  socket's stream once if the session has seen it, and never otherwise;
* every look of the next attempt reads once if its rule waits, the end was not seen
  and there is room, and does not read otherwise; nor does anything else that
  happens in between;
* the attempt says that a package is too large exactly if, at one of its looks, the
  rule itself says so, or the rule waits, the end was not seen and the buffer is
  full;
* the latter never happens to a stream of which all whole frames are within the
  limit and the incomplete rest is below it, whatever the reads make of it;
* all frames that are buffered are delivered, even after the end;
* once a call for the next package, or an attempt that is ready, has come to
  anything but a package, every later call comes to nothing and changes nothing,
  whatever happens in between. -/
theorem buffers_within (t : Tunnel) (limits : Limits) (supervised : Bool) (uses : List Use)
    (rule : Framing α) (moves : List Move) :
    let opened := ((start t limits supervised).course uses).session
    let s := moves.foldl Stream.move ⟨some rule, opened, []⟩
    let next := s.session.next s.rule
    let attempt := s.session.poll s.rule
    s.session.buffer.length ≤ limits.most ∧
      s.session.journal.ends = t.socket.journal.ends + s.session.ended.toNat ∧
      (∀ r d, Looks s.rule s.session r d → Attentive limits r d) ∧
      (∀ a, (s.session.aside a).tunnel.replay = s.session.tunnel.replay ∧
        (s.session.aside a).tunnel.socket.reads = s.session.tunnel.socket.reads) ∧
      (∀ size, attempt.answer = .ready (some (.error (.wire (.packageTooLarge size)))) ↔
        ∃ r d, Looks s.rule s.session r d ∧
          ((r.cut d.buffer).answer = .refused (.packageTooLarge size) ∨
            Overfull r d ∧ size = d.limits.maxPackage)) ∧
      (Framing.Moderate limits.maxPackage rule opened.stream →
        ∀ r d, Looks s.rule s.session r d → ¬ Overfull r d) ∧
      (∀ r contents last left, s.rule = some r →
        Framing.Cuts r s.session.buffer contents last left →
          nexts contents.length s.rule s.session =
            (contents.map (some ∘ Except.ok), some last, { s.session with buffer := left })) ∧
      ((∀ content, next.1 ≠ some (.ok content)) → ∀ later : List Move,
        let s' := later.foldl Stream.move ⟨next.2.1, next.2.2, s.calls⟩
        s'.session.next s'.rule = (none, s'.rule, s'.session)) ∧
      (attempt.answer ≠ .pending → (∀ content, attempt.answer ≠ .ready (some (.ok content))) →
        ∀ later : List Move,
          let s' := later.foldl Stream.move (s.move .ask)
          s'.session.next s'.rule = (none, s'.rule, s'.session)) := by
  intro opened s next attempt
  have hopened : opened.Within limits t.socket.journal.ends :=
    Course.uses_keep (P := (·.Within limits t.socket.journal.ends))
      (fun rule _ h => h.look rule) (fun _ a h => h.aside a) ⟨rfl, Nat.zero_le _, rfl⟩ uses
  have hwithin : s.session.Within limits t.socket.journal.ends :=
    Stream.moves_keep (P := fun _ c => c.Within limits t.socket.journal.ends)
      (fun rule _ h => h.look rule) (fun _ _ a h => h.aside a) hopened moves
  have hlooks : ∀ r d, Looks s.rule s.session r d → d.Within limits t.socket.journal.ends :=
    fun _ _ hlooks => hlooks.keeps (P := fun _ c => c.Within limits t.socket.journal.ends)
      (fun rule _ h => h.look rule) hwithin
  refine ⟨hwithin.buffer_le, hwithin.ends_eq, ?_, ?_, ?_, ?_, ?_, ?_, ?_⟩
  · exact fun r d h => (hlooks r d h).attentive r
  · intro a
    obtain ⟨_, _, _, hreplay, hreads, _⟩ := aside_eq a s.session
    exact ⟨hreplay, hreads⟩
  · exact answer_poll_eq_tooLarge_iff s.rule s.session
  · intro hmoderate r d h
    -- the rule of a stream that was just opened begins where the stream begins
    have hnew : Suits limits.maxPackage (some rule) opened := by
      refine ⟨congrArg Limits.maxPackage hopened.limits_eq, ?_⟩
      rintro r ⟨⟩
      have hresumes := Framing.resumes_restart rule opened.buffer
      rw [hmoderate.new] at hresumes
      exact .inr ⟨hresumes, hmoderate.new.symm ▸ hmoderate⟩
    have hsuits : Suits limits.maxPackage s.rule s.session :=
      Stream.moves_keep (fun _ _ h => h.look) (fun _ _ a h => h.aside a) hnew moves
    exact (h.keeps (fun _ _ h => h.look) hsuits).not_overfull
  · intro r contents last left hrule hcuts
    rw [hrule]
    exact nexts_of_cuts hcuts rfl
  · exact fun hover later => ((over_next hover).moves (s := ⟨_, _, s.calls⟩) later).next
  · exact fun hready hover later => ((over_poll hready hover).moves (s := s.move .ask) later).next

end Session

end ProxyTunnel
