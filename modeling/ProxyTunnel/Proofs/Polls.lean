/-
Package streams, attempt by attempt.

A session waits until a package is there. Seen from outside, that wait is a row
of attempts: each shows its rule what is buffered, reads as long as the rule
waits and the socket has something, and gives up for now when the socket has
nothing (`Session.poll`). Whoever drops a stream has made some attempts and no
more, so what holds after every attempt holds wherever a stream is dropped, in
the middle of a wait too. `Session.next_eq` says that `Session.next` is nothing
but these attempts.

An attempt also keeps the calls of its rule, for statements about what a rule
was shown and what it removed (`Framing.Call`). `Framing.removes_cut` lists what
that can be.
-/
import ProxyTunnel.Proofs.Frames
import ProxyTunnel.Session

set_option autoImplicit false

namespace ProxyTunnel

variable {α : Type}

namespace Framing

/-! ## What a rule removes -/

/-- A search that resumes finds a CR and an LF, too. -/
theorem eq_of_findTerminatorFrom {searched : Nat} {buffer : Bytes} {position : Nat}
    (h : findTerminatorFrom searched buffer = some position) :
    buffer = buffer.take position ++ 13 :: 10 :: buffer.drop (position + 2) := by
  simp only [findTerminatorFrom, Option.map_eq_some_iff] at h
  obtain ⟨i, hi, rfl⟩ := h
  generalize min (searched - 1) buffer.length = start at hi ⊢
  -- the bytes before the search stay in front of what it found
  have hfound := eq_of_findTerminator hi
  have htake : buffer.take start ++ (buffer.drop start).take i = buffer.take (start + i) :=
    List.take_add.symm
  have hdrop : (buffer.drop start).drop (i + 2) = buffer.drop (start + i + 2) := by
    rw [List.drop_drop, Nat.add_assoc]
  calc buffer = buffer.take start ++ buffer.drop start := (List.take_append_drop start buffer).symm
    _ = buffer.take start ++
        ((buffer.drop start).take i ++ 13 :: 10 :: (buffer.drop start).drop (i + 2)) := by
      rw [← hfound]
    _ = buffer.take (start + i) ++ 13 :: 10 :: buffer.drop (start + i + 2) := by
      rw [← List.append_assoc, htake, hdrop]

/-- What a rule removes from the front of a buffer for an answer. -/
inductive Removes : Framing α → Bytes → Bytes → Answer α → Prop
  /-- A line goes together with its terminator. -/
  | line {limit : UInt64} {searched : Nat} {make : String → α} {text rest : Bytes}
      (found : findTerminatorFrom searched (text ++ 13 :: 10 :: rest) = some text.length) :
      Removes (.line limit searched make) (text ++ 13 :: 10 :: rest) (text ++ [13, 10])
        (.package (make (Utf8.decodeLossy text)) none)
  /-- A frame goes whether it can be decoded or not. -/
  | fixed {size : UInt64} {decode : Bytes → Except WireError (α × Option (Framing α))}
      {frame rest : Bytes} (whole : frame.length = size.toNat) :
      Removes (.fixed size decode) (frame ++ rest) frame (ofDecoded (decode frame))
  /-- So does a frame with a header, as long as header and body together. -/
  | headed {header size : UInt64} {bodyLength : Bytes → Except WireError UInt64}
      {decode : Bytes → Except WireError (α × Option (Framing α))} {frame rest : Bytes}
      (declared : bodyLength ((frame ++ rest).take header.toNat) = .ok size)
      (whole : frame.length = (header + size).toNat) :
      Removes (.headed header bodyLength decode) (frame ++ rest) frame (ofDecoded (decode frame))
  /-- Who waits removes nothing. -/
  | waiting {rule : Framing α} {buffer : Bytes} : Removes rule buffer [] .waiting
  /-- A line that is too long stays where it is. -/
  | tooLong {limit : UInt64} {searched : Nat} {make : String → α} {buffer : Bytes} :
      Removes (.line limit searched make) buffer [] (.refused (.lineTooLong limit.toNat))
  /-- So does a header that declares no length. -/
  | undeclared {header : UInt64} {bodyLength : Bytes → Except WireError UInt64}
      {decode : Bytes → Except WireError (α × Option (Framing α))} {buffer : Bytes} {e : WireError}
      (undeclared : bodyLength (buffer.take header.toNat) = .error e) :
      Removes (.headed header bodyLength decode) buffer [] (.refused e)

/-- **Every call removes what its answer is made of, and leaves the rest.** -/
theorem removes_cut (rule : Framing α) (buffer : Bytes) :
    ∃ frame, buffer = frame ++ (rule.cut buffer).rest ∧
      rule.Removes buffer frame (rule.cut buffer).answer := by
  cases rule with
  | line limit searched make =>
    simp only [cut]
    obtain ⟨_, _, hcut⟩ | hcut | ⟨position, hfound, _, hcut⟩ :=
      cutLine_cases limit searched make buffer
    · rw [hcut]
      exact ⟨[], rfl, .waiting⟩
    · rw [hcut]
      exact ⟨[], rfl, .tooLong⟩
    · rw [hcut]
      have hline := eq_of_findTerminatorFrom hfound
      have hlength : (buffer.take position).length = position := by
        have hend := add_two_le_length hline
        rw [List.length_take]
        omega
      refine ⟨buffer.take position ++ [13, 10], ?_, ?_⟩
      · rw [List.append_assoc]
        exact hline
      · have key := @Removes.line α limit searched make (buffer.take position)
          (buffer.drop (position + 2))
        rw [← hline, hlength] at key
        exact key hfound
  | fixed size decode =>
    simp only [cut]
    obtain ⟨_, hcut⟩ | ⟨frame, rest, rfl, hwhole, hcut⟩ :=
      cutFrame_cases (.fixed size decode) size decode buffer
    · rw [hcut]
      exact ⟨[], rfl, .waiting⟩
    · rw [hcut]
      exact ⟨frame, rfl, .fixed hwhole⟩
  | headed header bodyLength decode =>
    simp only [cut]
    obtain ⟨_, hcut⟩ | ⟨e, hbody, hcut⟩ | ⟨size, frame, rest, hbody, rfl, hwhole, hcut⟩ :=
      cutHeaded_cases (.headed header bodyLength decode) header bodyLength decode buffer
    · rw [hcut]
      exact ⟨[], rfl, .waiting⟩
    · rw [hcut]
      exact ⟨[], rfl, .undeclared hbody⟩
    · rw [hcut]
      exact ⟨frame, rfl, .headed hbody hwhole⟩

/-- A call of a rule: the rule, and the bytes it was shown. -/
structure Call (α : Type) where
  rule : Framing α
  buffer : Bytes

namespace Call

/-- What the rule makes of them. -/
def cut (k : Call α) : Cut α := k.rule.cut k.buffer

/-- The bytes that the call removed. -/
def frame (k : Call α) : Bytes := k.buffer.take (k.buffer.length - k.cut.rest.length)

/-- A call removes its frame and leaves the rest. -/
theorem removes (k : Call α) :
    k.buffer = k.frame ++ k.cut.rest ∧ k.rule.Removes k.buffer k.frame k.cut.answer := by
  obtain ⟨frame, hbuffer, hremoves⟩ := removes_cut k.rule k.buffer
  have hframe : k.frame = frame := by
    have hlength := congrArg List.length hbuffer
    rw [List.length_append] at hlength
    have hsize : k.buffer.length - k.cut.rest.length = frame.length := by
      change k.buffer.length - (k.rule.cut k.buffer).rest.length = frame.length
      omega
    rw [Call.frame, hsize]
    conv => lhs; rw [hbuffer]
    exact List.take_left
  rw [hframe]
  exact ⟨hbuffer, hremoves⟩

/-- A call that waits removes nothing. -/
theorem frame_of_waiting {k : Call α} (h : k.cut.answer = .waiting) : k.frame = [] := by
  rw [frame, cut, rest_cut_of_waiting h]
  simp

end Call

/-- One byte is no terminator. -/
theorem findTerminator_of_length_le_one {bytes : Bytes} (h : bytes.length ≤ 1) :
    findTerminator bytes = none := by
  cases bytes with
  | nil => rfl
  | cons b bytes =>
    rw [List.length_cons] at h
    have hnil : bytes = [] := List.eq_nil_of_length_eq_zero (by omega)
    simp [hnil, findTerminator_cons, findTerminator]

/-- A rule that waits waits on, as long as nothing more arrives. -/
theorem cut_of_waiting {rule after : Framing α} {buffer rest : Bytes}
    (h : rule.cut buffer = ⟨.waiting, after, rest⟩) : after.cut buffer = ⟨.waiting, after, buffer⟩ := by
  cases rule with
  | line limit searched make =>
    simp only [cut] at h
    obtain ⟨_, hshort, hcut⟩ | hcut | ⟨position, _, _, hcut⟩ :=
      cutLine_cases limit searched make buffer
    · rw [hcut] at h
      cases h
      -- the next search begins with the last byte, which is no terminator alone
      have hnone : findTerminatorFrom buffer.length buffer = none := by
        simp only [findTerminatorFrom, Option.map_eq_none_iff]
        apply findTerminator_of_length_le_one
        rw [List.length_drop]
        omega
      simp only [cut, cutLine, hnone]
      exact if_neg (Nat.not_lt_of_le hshort)
    · rw [hcut] at h
      cases h
    · rw [hcut] at h
      cases h
  | fixed size decode =>
    simp only [cut] at h
    obtain ⟨_, hcut⟩ | ⟨frame, rest, _, _, hcut⟩ :=
      cutFrame_cases (.fixed size decode) size decode buffer
    · rw [hcut] at h
      cases h
      exact hcut
    · rw [hcut] at h
      exact absurd (congrArg Cut.answer h) (ofDecoded_ne_waiting _)
  | headed header bodyLength decode =>
    simp only [cut] at h
    obtain ⟨_, hcut⟩ | ⟨e, _, hcut⟩ | ⟨size, frame, rest, _, _, _, hcut⟩ :=
      cutHeaded_cases (.headed header bodyLength decode) header bodyLength decode buffer
    · rw [hcut] at h
      cases h
      exact hcut
    · rw [hcut] at h
      cases h
    · rw [hcut] at h
      exact absurd (congrArg Cut.answer h) (ofDecoded_ne_waiting _)

end Framing

namespace Session

/-! ## One attempt -/

/-- What an attempt to get a package came to, and the calls of rules in it. -/
structure Polled (α : Type) where
  /-- A package, an error or the end of the stream, if anything was ready. -/
  answer : Poll (Option (Except Failure α))
  rule : Option (Framing α)
  session : Session
  calls : List (Framing.Call α)

/-- The attempt with one more call in front. -/
def Polled.after (call : Framing.Call α) (p : Polled α) : Polled α :=
  { p with calls := call :: p.calls }

/-- Attempts to get the next package. -/
def poll (rule : Option (Framing α)) (c : Session) : Polled α :=
  match rule with
  | none => ⟨.ready none, none, c, []⟩
  | some rule =>
    match rule.cut c.buffer with
    | ⟨.package content successor, after, rest⟩ =>
      ⟨.ready (some (.ok content)), some (successor.getD after), { c with buffer := rest },
        [⟨rule, c.buffer⟩]⟩
    | ⟨.refused e, _, rest⟩ =>
      ⟨.ready (some (.error (.wire e))), none, { c with buffer := rest }, [⟨rule, c.buffer⟩]⟩
    | ⟨.waiting, after, _⟩ =>
      if c.ended then ⟨.ready none, some after, c, [⟨rule, c.buffer⟩]⟩
      else if c.limits.maxPackage ≤ c.buffer.length then
        ⟨.ready (some (.error (.wire (.packageTooLarge c.limits.maxPackage)))), none, c,
          [⟨rule, c.buffer⟩]⟩
      else
        match _h : c.tunnel.pollRead c.limits.room with
        | (.pending, tunnel) => ⟨.pending, some after, { c with tunnel }, [⟨rule, c.buffer⟩]⟩
        | (.ready (.error e), tunnel) =>
          ⟨.ready (some (.error (.socket e))), none, { c with tunnel }, [⟨rule, c.buffer⟩]⟩
        | (.ready (.ok bytes), tunnel) =>
          if _hne : bytes = [] then
            ⟨.ready none, some after, { c with tunnel, ended := true }, [⟨rule, c.buffer⟩]⟩
          else (poll (some after) { c with tunnel, buffer := c.buffer ++ bytes }).after
            ⟨rule, c.buffer⟩
termination_by c.tunnel.backlog
decreasing_by
  have h := Tunnel.backlog_pollRead_lt c.limits.room c.tunnel
  rw [_h] at h
  exact h _hne

/-! ## A wait is a row of attempts -/

theorem next_of_package {rule after : Framing α} {content : α} {successor : Option (Framing α)}
    {rest : Bytes} {c : Session} (h : rule.cut c.buffer = ⟨.package content successor, after, rest⟩) :
    c.next (some rule) =
      (some (.ok content), some (successor.getD after), { c with buffer := rest }) := by
  rw [next]
  split <;> rename_i heq <;> rw [h] at heq <;> cases heq
  rfl

theorem next_of_refused {rule after : Framing α} {e : WireError} {rest : Bytes} {c : Session}
    (h : rule.cut c.buffer = ⟨.refused e, after, rest⟩) :
    c.next (some rule) = (some (.error (.wire e)), none, { c with buffer := rest }) := by
  rw [next]
  split <;> rename_i heq <;> rw [h] at heq <;> cases heq
  rfl

/-- A rule that waits needs the end, the limit or the socket. -/
theorem next_of_waiting {rule after : Framing α} {rest : Bytes} {c : Session}
    (h : rule.cut c.buffer = ⟨.waiting, after, rest⟩) :
    c.next (some rule) =
      if c.ended then (none, some after, c)
      else if c.limits.maxPackage ≤ c.buffer.length then
        (some (.error (.wire (.packageTooLarge c.limits.maxPackage))), none, c)
      else match c.fetch with
        | (.error e, tunnel) => (some (.error e), none, { c with tunnel })
        | (.ok bytes, tunnel) =>
          if bytes = [] then (none, some after, { c with tunnel, ended := true })
          else next (some after) { c with tunnel, buffer := c.buffer ++ bytes } := by
  rw [next]
  split <;> rename_i heq <;> rw [h] at heq <;> cases heq
  split
  · rfl
  split
  · rfl
  split <;> rename_i hfetch <;> rw [hfetch]
  dsimp only
  split <;> rfl

/-- A fetch is an attempt to read, and a fetch from then on if nothing was ready
and nobody gave up. -/
theorem fetch_eq (c : Session) :
    c.fetch = match c.tunnel.pollRead c.limits.room with
      | (.ready r, tunnel) => (r.mapError Failure.socket, tunnel)
      | (.pending, tunnel) =>
        match c.giveUp tunnel with
        | some result => (result, tunnel)
        | none => ({ c with tunnel } : Session).fetch := by
  have hattempt : ((Tunnel.reading c.limits.room).map (·.mapError Failure.socket)).attempt c.tunnel =
    ((c.tunnel.pollRead c.limits.room).1.map (·.mapError Failure.socket),
      (c.tunnel.pollRead c.limits.room).2) := rfl
  rcases hp : c.tunnel.pollRead c.limits.room with ⟨r | _, tunnel⟩
  all_goals rw [hp] at hattempt; dsimp only
  · exact Operation.await_of_ready hattempt c.giveUp
  · -- the session on the later tunnel gives up for the same reasons
    refine (Operation.await_of_pending hattempt c.giveUp).trans ?_
    dsimp only
    cases c.giveUp tunnel with
    | some result => rfl
    | none => rfl

/-- An attempt that was not ready has used up a step of the socket. -/
theorem stepsLeft_poll_lt {rule : Option (Framing α)} {c : Session}
    (h : (c.poll rule).answer = .pending) :
    (c.poll rule).session.tunnel.socket.stepsLeft < c.tunnel.socket.stepsLeft := by
  fun_induction poll rule c with
  | case6 c rule after rest hcut hend hfull tunnel hpoll =>
    have hless := Tunnel.stepsLeft_pollRead_lt c.limits.room c.tunnel (by rw [hpoll])
    rwa [hpoll] at hless
  | case9 c rule after rest hcut hend hfull bytes tunnel hpoll hne ih =>
    have hless := Tunnel.stepsLeft_pollRead_le c.limits.room c.tunnel
    rw [hpoll] at hless
    exact Nat.lt_of_lt_of_le (ih h) hless
  | _ => cases h

/-- Whoever supervises the session gives up after an attempt that was not ready. -/
def givesUp (c : Session) : Bool := c.supervised && c.hasFired

/-- **A wait for the next package is attempts, one after the other**, until one
is ready or whoever supervises the session gives up. -/
theorem next_eq (rule : Option (Framing α)) (c : Session) :
    c.next rule = match (c.poll rule).answer with
      | .ready result => (result, (c.poll rule).rule, (c.poll rule).session)
      | .pending =>
        if (c.poll rule).session.givesUp then
          (some (.error .cancelled), none, (c.poll rule).session)
        else (c.poll rule).session.next (c.poll rule).rule := by
  -- the cases are the ways out of an attempt; each read that brings bytes goes
  -- round once more, on both sides
  fun_induction poll rule c with
  | case1 c => rw [next]
  | case2 c rule content successor after rest hcut => exact next_of_package hcut
  | case3 c rule e after rest hcut => exact next_of_refused hcut
  | case4 c rule after rest hcut hend => rw [next_of_waiting hcut, if_pos hend]
  | case5 c rule after rest hcut hend hfull =>
    rw [next_of_waiting hcut, if_neg hend, if_pos hfull]
  | case6 c rule after rest hcut hend hfull tunnel hpoll =>
    have hagain := Framing.cut_of_waiting hcut
    rw [next_of_waiting hcut, if_neg hend, if_neg hfull, fetch_eq, hpoll]
    dsimp only
    rw [next_of_waiting (c := { c with tunnel }) hagain, if_neg hend, if_neg hfull]
    -- the supervisor of both waits looks at the same journal
    have hgive : c.giveUp tunnel =
        if ({ c with tunnel } : Session).givesUp then some (.error .cancelled) else none := rfl
    rw [hgive]
    by_cases hstop : ({ c with tunnel } : Session).givesUp = true
    · rw [if_pos hstop, if_pos hstop]
    · rw [if_neg hstop, if_neg hstop]
  | case7 c rule after rest hcut hend hfull e tunnel hpoll =>
    rw [next_of_waiting hcut, if_neg hend, if_neg hfull, fetch_eq, hpoll]
    rfl
  | case8 c rule after rest hcut hend hfull tunnel hpoll =>
    rw [next_of_waiting hcut, if_neg hend, if_neg hfull, fetch_eq, hpoll]
    rfl
  | case9 c rule after rest hcut hend hfull bytes tunnel hpoll hne ih =>
    rw [next_of_waiting hcut, if_neg hend, if_neg hfull, fetch_eq, hpoll]
    change (if bytes = [] then _ else _) = _
    rw [if_neg hne]
    exact ih

end Session

end ProxyTunnel
