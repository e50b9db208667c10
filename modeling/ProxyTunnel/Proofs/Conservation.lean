/-
No byte is lost between a socket and whoever takes it over.

Bytes that arrive have three owners, one after the other: the buffer of the
session, the replay bytes of the tunnel that the session is handed over as, and
whoever cuts packages or reads. All three are one store. What comes in goes
behind what the store held, and what goes out is taken from its front
(`Tunnel.Brings`). Each step of a session and each read of a tunnel keeps to
that, so a whole course does: streams of packages opened and dropped wherever
they are, writes and cancellations in between, and reads after the session is
over (`Session.conserves_delivered`).
-/
import Mathlib.Algebra.BigOperators.Group.List.Basic
import Mathlib.Algebra.GroupWithZero.Nat
import ProxyTunnel.Proofs.Calm
import ProxyTunnel.Proofs.Polls
import ProxyTunnel.Proofs.Sides

set_option autoImplicit false

namespace ProxyTunnel

open Event

/-! ## How much was read -/

/-- How many bytes an event brought. -/
def Event.brought : Event → Nat
  | read count => count
  | _ => 0

namespace Journal

/-- How many bytes the reads of a journal brought. -/
def readCount (journal : Journal) : Nat := (journal.events.map brought).sum

variable {a b : Journal} {events : List Event}

theorem Gains.readCount_eq (h : a.Gains b events) :
    b.readCount = a.readCount + (events.map brought).sum := by
  simp [readCount, h.events_eq]

/-- Nothing is read by sending. -/
theorem GainsOnly.readCount_eq (h : a.GainsOnly isSent b) : b.readCount = a.readCount := by
  obtain ⟨events, hg, hall⟩ := h
  have hnone : (events.map brought).sum = 0 := by
    apply List.sum_eq_zero
    intro count hcount
    obtain ⟨e, he, rfl⟩ := List.mem_map.1 hcount
    have hsent := List.all_eq_true.1 hall e he
    cases e <;> simp_all [isSent, brought]
  rw [hg.readCount_eq, hnone, Nat.add_zero]

end Journal

/-! ## What a socket delivers -/

namespace Socket

/-- The socket has delivered these bytes: they are gone from its front, and the
journal counts them. -/
structure Delivers (s : Socket) (bytes : Bytes) (s' : Socket) : Prop where
  unread : s.unread = bytes ++ s'.unread
  counted : s'.journal.readCount = s.journal.readCount + bytes.length

/-- What a socket delivered between two of its states: as many of the bytes it
held as its journal counts. -/
def delivered (s s' : Socket) : Bytes :=
  s.unread.take (s'.journal.readCount - s.journal.readCount)

variable {s s' s'' : Socket} {xs ys : Bytes}

theorem Delivers.delivered_eq (h : s.Delivers xs s') : s.delivered s' = xs := by
  have hcount : s'.journal.readCount - s.journal.readCount = xs.length := by
    have := h.counted
    omega
  rw [delivered, hcount, h.unread]
  exact List.take_left

theorem Delivers.trans (h : s.Delivers xs s') (h' : s'.Delivers ys s'') :
    s.Delivers (xs ++ ys) s'' where
  unread := by rw [h.unread, h'.unread, List.append_assoc]
  counted := by rw [h'.counted, h.counted, List.length_append, Nat.add_assoc]

/-- Whatever leaves the read script and the count of bytes alone delivers nothing. -/
theorem delivers_nil (hreads : s'.reads = s.reads)
    (hcount : s'.journal.readCount = s.journal.readCount) : s.Delivers [] s' where
  unread := by rw [Socket.unread, Socket.unread, hreads, List.nil_append]
  counted := by rw [hcount, List.length_nil, Nat.add_zero]

/-- So does an entry that is no event. -/
theorem delivers_record (s : Socket) {entry : Entry} (h : Journal.event? entry = none) :
    s.Delivers [] (s.record entry) := by
  refine delivers_nil rfl ?_
  have hgains : s.journal.Gains (s.record entry).journal [] :=
    ⟨[entry], rfl, by simp [Journal.events, h]⟩
  simpa using hgains.readCount_eq

/-- A read delivers what it brings. -/
theorem delivers_pollRead (room : Nat) (s : Socket) :
    s.Delivers (received (s.pollRead room).1) (s.pollRead room).2 where
  unread := unread_pollRead room s
  counted := by
    have h := Script.gains_poll [] s.reads s.journal
    unfold pollRead
    split <;> rename_i heq <;> rw [heq] at h
    · simpa [received] using h.readCount_eq
    · simpa [received, brought] using (h.event (.readFailed _)).readCount_eq
    · simpa [received, brought] using (h.event (.read _)).readCount_eq

end Socket

/-! ## One store of bytes -/

namespace Tunnel

/-- These bytes went out of the tunnel: what its socket delivered came in behind
the replay bytes, and they were taken from the front. -/
def Brings (t : Tunnel) (out : Bytes) (t' : Tunnel) : Prop :=
  ∃ fetched, t.socket.Delivers fetched t'.socket ∧ t.replay ++ fetched = out ++ t'.replay

theorem Brings.trans {t t' t'' : Tunnel} {xs ys : Bytes} (h : t.Brings xs t')
    (h' : t'.Brings ys t'') : t.Brings (xs ++ ys) t'' := by
  obtain ⟨fetched, hd, hstore⟩ := h
  obtain ⟨fetched', hd', hstore'⟩ := h'
  refine ⟨fetched ++ fetched', hd.trans hd', ?_⟩
  calc t.replay ++ (fetched ++ fetched')
      = xs ++ (t'.replay ++ fetched') := by
        rw [← List.append_assoc, hstore, List.append_assoc]
    _ = xs ++ ys ++ t''.replay := by rw [hstore', List.append_assoc]

/-- Whatever touches neither the replay bytes nor the receiving side of the
socket brings nothing. -/
theorem brings_nil {t : Tunnel} {socket : Socket} (h : t.socket.Delivers [] socket) :
    t.Brings [] { t with socket } :=
  ⟨[], h, List.append_nil _⟩

theorem Brings.refl (t : Tunnel) : t.Brings [] t := brings_nil (Socket.delivers_nil rfl rfl)

/-- Bytes that a tunnel brought and that are held back come before its own. -/
theorem Brings.held {t t' : Tunnel} {out : Bytes} (h : t.Brings out t') (held : Bytes) :
    ({ t with replay := held ++ t.replay } : Tunnel).Brings []
      { t' with replay := held ++ out ++ t'.replay } := by
  obtain ⟨fetched, hd, hstore⟩ := h
  refine ⟨fetched, hd, ?_⟩
  rw [List.append_assoc, hstore, List.nil_append, List.append_assoc]

theorem brings_pollRead (room : Nat) (t : Tunnel) :
    t.Brings (Socket.received (t.pollRead room).1) (t.pollRead room).2 := by
  unfold pollRead
  by_cases hnone : t.replay.isEmpty
  · rw [if_pos hnone]
    refine ⟨_, Socket.delivers_pollRead room t.socket, ?_⟩
    rw [List.isEmpty_iff] at hnone
    simp [hnone]
  · rw [if_neg hnone]
    refine ⟨[], Socket.delivers_nil rfl rfl, ?_⟩
    simp [Socket.received]

/-- A read that finds replay bytes leaves the socket as it is. -/
theorem socket_pollRead {t : Tunnel} (h : t.replay ≠ []) (room : Nat) :
    (t.pollRead room).2.socket = t.socket := by
  have hsome : ¬ t.replay.isEmpty = true := by simpa using h
  rw [pollRead, if_neg hsome]

/-- Reads use up the replay bytes byte by byte. -/
theorem replay_pollRead (room : Nat) (t : Tunnel) : (t.pollRead room).2.replay =
    t.replay.drop (Socket.received (t.pollRead room).1).length := by
  unfold pollRead
  by_cases hnone : t.replay.isEmpty
  · rw [if_pos hnone]
    rw [List.isEmpty_iff] at hnone
    simp [hnone]
  · rw [if_neg hnone]
    simp only [Socket.received, List.length_take]
    -- there may be more room than replay bytes
    rcases Nat.le_total room t.replay.length with hle | hle
    · rw [Nat.min_eq_left hle]
    · rw [Nat.min_eq_right hle, List.drop_eq_nil_of_le hle, List.drop_length]

/-- Attempts to read, one after the other, and what they brought. -/
def pollReads : List Nat → Tunnel → Bytes × Tunnel
  | [], t => ([], t)
  | room :: rooms, t =>
    (Socket.received (t.pollRead room).1 ++ (pollReads rooms (t.pollRead room).2).1,
      (pollReads rooms (t.pollRead room).2).2)

theorem brings_pollReads (rooms : List Nat) (t : Tunnel) :
    t.Brings (pollReads rooms t).1 (pollReads rooms t).2 := by
  induction rooms generalizing t with
  | nil => exact Brings.refl t
  | cons room rooms ih => exact (brings_pollRead room t).trans (ih _)

theorem replay_pollReads (rooms : List Nat) (t : Tunnel) :
    (pollReads rooms t).2.replay = t.replay.drop (pollReads rooms t).1.length := by
  induction rooms generalizing t with
  | nil => rfl
  | cons room rooms ih =>
    simp only [pollReads]
    rw [ih, replay_pollRead, List.drop_drop, List.length_append]

end Tunnel

/-! ## Streams of packages -/

namespace Session

/-- The session as a store: the buffer, then the replay bytes of its tunnel. -/
def store (c : Session) : Tunnel := { c.tunnel with replay := c.buffer ++ c.tunnel.replay }

/-- Handing a session over keeps the store. -/
theorem brings_detach (c : Session) : c.store.Brings [] c.detach :=
  Tunnel.brings_nil (Socket.delivers_record c.tunnel.socket rfl)

section

variable {α : Type}

/-- The bytes that the calls of an attempt removed. -/
def Polled.frames (p : Polled α) : Bytes := p.calls.flatMap (·.frame)

/-- An attempt that called its rule once. -/
theorem Polled.frames_once (answer : Poll (Option (Except Failure α)))
    (rule : Option (Framing α)) (c : Session) (k : Framing.Call α) :
    Polled.frames ⟨answer, rule, c, [k]⟩ = k.frame :=
  List.append_nil _

/-- A call takes its frame out of the store. -/
theorem brings_call {c : Session} {rule after : Framing α} {answer : Framing.Answer α}
    {rest : Bytes} (h : rule.cut c.buffer = ⟨answer, after, rest⟩) :
    c.store.Brings (Framing.Call.frame ⟨rule, c.buffer⟩) { c with buffer := rest }.store := by
  refine ⟨[], Socket.delivers_nil rfl rfl, ?_⟩
  have hsplit := (Framing.Call.removes ⟨rule, c.buffer⟩).1
  rw [Framing.Call.cut, h] at hsplit
  calc c.buffer ++ c.tunnel.replay ++ []
      = c.buffer ++ c.tunnel.replay := List.append_nil _
    _ = Framing.Call.frame ⟨rule, c.buffer⟩ ++ rest ++ c.tunnel.replay := by rw [← hsplit]
    _ = Framing.Call.frame ⟨rule, c.buffer⟩ ++ (rest ++ c.tunnel.replay) := List.append_assoc ..

/-- A call that waited takes nothing, and what is read after it goes into the
buffer. -/
theorem brings_waiting {c : Session} {rule after : Framing α} {rest out : Bytes} {t : Tunnel}
    (h : rule.cut c.buffer = ⟨.waiting, after, rest⟩) (hread : c.tunnel.Brings out t) :
    c.store.Brings (Framing.Call.frame ⟨rule, c.buffer⟩)
      { c with tunnel := t, buffer := c.buffer ++ out }.store := by
  have hwait : (Framing.Call.cut ⟨rule, c.buffer⟩).answer = .waiting := by
    rw [Framing.Call.cut, h]
  rw [Framing.Call.frame_of_waiting hwait]
  exact hread.held c.buffer

/-- **An attempt to get a package takes out of the store what its calls removed.** -/
theorem brings_poll (rule : Option (Framing α)) (c : Session) :
    c.store.Brings (c.poll rule).frames (c.poll rule).session.store := by
  -- read by read; only the last call of an attempt can remove anything
  fun_induction poll rule c with
  | case1 c => exact Tunnel.Brings.refl _
  | case2 c rule content successor after rest hcut | case3 c rule e after rest hcut =>
    rw [Polled.frames_once]
    exact brings_call hcut
  | case4 c rule after rest hcut hend | case5 c rule after rest hcut hend hfull =>
    have hcall := brings_waiting hcut (.refl c.tunnel)
    rw [Polled.frames_once]
    rwa [List.append_nil] at hcall
  | case6 c rule after rest hcut hend hfull tunnel hpoll
  | case7 c rule after rest hcut hend hfull e tunnel hpoll
  | case8 c rule after rest hcut hend hfull tunnel hpoll =>
    -- not ready, failed or at the end: the read brought nothing
    have hread := Tunnel.brings_pollRead c.limits.room c.tunnel
    rw [hpoll] at hread
    have hcall := brings_waiting hcut hread
    simp only [Socket.received, List.append_nil] at hcall
    rw [Polled.frames_once]
    exact hcall
  | case9 c rule after rest hcut hend hfull bytes tunnel hpoll hne ih =>
    have hread := Tunnel.brings_pollRead c.limits.room c.tunnel
    rw [hpoll] at hread
    exact (brings_waiting hcut hread).trans ih

end

/-! ## What else happens in a session -/

/-- What happens between two attempts to get a package, or between two streams. -/
inductive Aside where
  /-- A frame is sent. -/
  | send (frame : Except WireError Bytes)
  /-- A write makes one attempt, and may be given up after it. -/
  | attempt (busy : Bool) (w : Write)
  /-- A token fires. -/
  | fire (token : Nat)

/-- The session after an aside. -/
def aside (a : Aside) (c : Session) : Session :=
  match a with
  | .send frame => (c.send frame).2
  | .attempt busy w => c.withSender (c.sender.attempt busy w).2
  | .fire token =>
    { c with tunnel := { c.tunnel with socket := c.tunnel.socket.record (.fired token) } }

/-- An aside takes nothing out of the store. -/
theorem brings_aside (a : Aside) (c : Session) : c.store.Brings [] (c.aside a).store := by
  cases a with
  | send frame =>
    have hreads := Sender.reads_send c.supervised c.token frame c.sender
    have hsent := Sender.gainsOnly_send c.supervised c.token frame c.sender
    exact Tunnel.brings_nil (Socket.delivers_nil hreads hsent.readCount_eq)
  | attempt busy w =>
    have hreads := Sender.reads_attempt busy w c.sender
    have hsent := Sender.gainsOnly_attempt busy w c.sender
    exact Tunnel.brings_nil (Socket.delivers_nil hreads hsent.readCount_eq)
  | fire token => exact Tunnel.brings_nil (Socket.delivers_record c.tunnel.socket rfl)

/-! ## Streams -/

/-- What happens while a stream is open. -/
inductive Move where
  /-- Somebody asks for the next package. -/
  | ask
  | aside (a : Aside)

/-- An open stream: its rule, unless it has ended for good, its session, and the
calls of its rules so far. -/
structure Stream (α : Type) where
  rule : Option (Framing α)
  session : Session
  calls : List (Framing.Call α)

namespace Stream

variable {α : Type}

/-- A stream after a move. -/
def move (s : Stream α) : Move → Stream α
  | .ask =>
    let p := s.session.poll s.rule
    ⟨p.rule, p.session, s.calls ++ p.calls⟩
  | .aside a => { s with session := s.session.aside a }

/-- The bytes that the calls of a stream removed. -/
def frames (s : Stream α) : Bytes := s.calls.flatMap (·.frame)

/-- Whatever store a stream has taken its frames out of, it goes on taking them
from there. -/
theorem brings_move {t : Tunnel} {s : Stream α} (h : t.Brings s.frames s.session.store)
    (m : Move) : t.Brings (s.move m).frames (s.move m).session.store := by
  cases m with
  | ask =>
    have hframes : (s.move .ask).frames = s.frames ++ (s.session.poll s.rule).frames :=
      List.flatMap_append
    rw [hframes]
    exact h.trans (brings_poll s.rule s.session)
  | aside a => simpa [move, frames] using h.trans (brings_aside a s.session)

/-- So it does however often it moves. -/
theorem brings_moves {t : Tunnel} {s : Stream α} (h : t.Brings s.frames s.session.store)
    (moves : List Move) :
    t.Brings (moves.foldl move s).frames (moves.foldl move s).session.store := by
  induction moves generalizing s with
  | nil => exact h
  | cons m moves ih => exact ih (brings_move h m)

/-- Somebody who waits for a package asks until there is an answer. A wait that is
given up is a stream that is dropped. -/
theorem asks_of_next (rule : Option (Framing α)) (c : Session) (calls : List (Framing.Call α)) :
    ∃ asks, ((List.replicate asks Move.ask).foldl move ⟨rule, c, calls⟩).session =
      (c.next rule).2.2 := by
  -- every attempt that was not ready has used a step of the socket up
  induction hsteps : c.tunnel.socket.stepsLeft using Nat.strongRecOn
    generalizing rule c calls with
  | ind steps ih =>
    have hnext := next_eq rule c
    cases hpoll : (c.poll rule).answer with
    | ready result =>
      rw [hpoll] at hnext
      exact ⟨1, by rw [hnext]; rfl⟩
    | pending =>
      rw [hpoll] at hnext
      by_cases hstop : (c.poll rule).session.givesUp = true
      · rw [if_pos hstop] at hnext
        exact ⟨1, by rw [hnext]; rfl⟩
      · rw [if_neg hstop] at hnext
        have hless := stepsLeft_poll_lt hpoll
        obtain ⟨asks, hasks⟩ := ih _ (by omega) (c.poll rule).rule (c.poll rule).session
          (calls ++ (c.poll rule).calls) rfl
        exact ⟨asks + 1, by rw [hnext]; exact hasks⟩

end Stream

/-! ## A whole session -/

/-- What a session is used for: a stream, opened and later dropped, or something
between two streams. -/
inductive Use : Type 1 where
  | stream {α : Type} (rule : Framing α) (moves : List Move)
  | aside (a : Aside)

/-- How far a session has come, and the calls of all its streams. -/
structure Course : Type 1 where
  session : Session
  calls : List (Σ α : Type, Framing.Call α)

namespace Course

/-- The bytes that all calls removed. -/
def frames (course : Course) : Bytes := course.calls.flatMap (·.2.frame)

/-- A session that is put to one more use. -/
def use (course : Course) : Use → Course
  | .stream rule moves =>
    let s := moves.foldl Stream.move ⟨some rule, course.session, []⟩
    ⟨s.session, course.calls ++ s.calls.map (⟨_, ·⟩)⟩
  | .aside a => { course with session := course.session.aside a }

theorem brings_use {t : Tunnel} {course : Course} (h : t.Brings course.frames course.session.store)
    (u : Use) : t.Brings (course.use u).frames (course.use u).session.store := by
  cases u with
  | @stream α rule moves =>
    -- a stream that was just opened has removed nothing itself
    have hstream := Stream.brings_moves (s := ⟨some rule, course.session, []⟩)
      (Tunnel.Brings.refl course.session.store) moves
    have hframes : (course.use (.stream rule moves)).frames = course.frames ++
        (moves.foldl Stream.move ⟨some rule, course.session, []⟩).frames := by
      simp only [frames, use, Stream.frames, List.flatMap_append, List.flatMap_map]
    rw [hframes]
    exact h.trans hstream
  | aside a => simpa [use, frames] using h.trans (brings_aside a course.session)

/-- Whatever a session is used for, its streams take their frames out of one store. -/
theorem brings_uses {t : Tunnel} {course : Course} (h : t.Brings course.frames course.session.store)
    (uses : List Use) :
    t.Brings (uses.foldl use course).frames (uses.foldl use course).session.store := by
  induction uses generalizing course with
  | nil => exact h
  | cons u uses ih => exact ih (brings_use h u)

end Course

/-- The course of a session. -/
def course (c : Session) (uses : List Use) : Course := uses.foldl Course.use ⟨c, []⟩

/-- **Bytes are conserved from the first read to the last.** For every tunnel a
session starts on, every limit, every use of the session and every row of reads
after it has been detached:

* what the socket delivered are the bytes it held first, and it still holds the
  others;
* the bytes that the calls of all rules removed, then the bytes that the reads
  returned, then the replay bytes that are left, are the bytes that the session
  started with and those that the socket delivered, in this order;
* every call removed its frame from the front of the buffer and nothing else
  (`Framing.Removes`), and a call that yielded no frame removed nothing;
* a wait for a package is a number of moves that ask for it, so streams may be
  waited for, too;
* as long as replay bytes are left, a read leaves the socket alone;
* taking the tunnel apart gives the replay bytes that were not read. -/
theorem conserves_delivered (t : Tunnel) (limits : Limits) (supervised : Bool) (uses : List Use)
    (rooms : List Nat) :
    let course := (start t limits supervised).course uses
    let detached := course.session.detach
    let returned := (Tunnel.pollReads rooms detached).1
    let left := (Tunnel.pollReads rooms detached).2
    t.socket.unread = t.socket.delivered left.socket ++ left.socket.unread ∧
      course.frames ++ returned ++ left.replay =
        t.replay ++ t.socket.delivered left.socket ∧
      (∀ k ∈ course.calls, k.2.buffer = k.2.frame ++ k.2.cut.rest ∧
        k.2.rule.Removes k.2.buffer k.2.frame k.2.cut.answer ∧
        (k.2.cut.answer = .waiting → k.2.frame = [])) ∧
      (∀ (α : Type) (rule : Option (Framing α)) (c : Session), ∃ asks,
        ((List.replicate asks .ask).foldl Stream.move ⟨rule, c, []⟩).session =
          (c.next rule).2.2) ∧
      (left.replay ≠ [] → ∀ room, (left.pollRead room).2.socket = left.socket) ∧
      left.intoParts = (left.socket, detached.replay.drop returned.length) := by
  intro course detached returned left
  -- a session that just started has removed nothing, and its buffer is empty
  have hstart : t.Brings (Course.mk (start t limits supervised) []).frames
      (start t limits supervised).store := Tunnel.Brings.refl t
  have hsession : t.Brings course.frames course.session.store := Course.brings_uses hstart uses
  have hreads : detached.Brings returned left := Tunnel.brings_pollReads rooms detached
  obtain ⟨fetched, hdelivers, hstore⟩ :=
    (hsession.trans (brings_detach course.session)).trans hreads
  have hdelivered := hdelivers.delivered_eq
  refine ⟨?_, ?_, ?_, ?_, ?_, ?_⟩
  · rw [hdelivered]
    exact hdelivers.unread
  · rw [hdelivered, hstore, List.append_nil]
  · intro k _
    exact ⟨k.2.removes.1, k.2.removes.2, k.2.frame_of_waiting⟩
  · intro α rule c
    exact Stream.asks_of_next rule c []
  · intro hreplay room
    exact Tunnel.socket_pollRead hreplay room
  · have hreplay : left.replay = detached.replay.drop returned.length :=
      Tunnel.replay_pollReads rooms detached
    rw [Tunnel.intoParts, hreplay]

end Session

end ProxyTunnel
