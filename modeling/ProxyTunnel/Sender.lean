/-
The sending side of a socket: logical writes that take turns.

A logical write has a frame and a token. It waits for its turn, encodes the
frame, and then sends and flushes it; the turn ends with it. Writes started
together get their turns in the order in which they were started. So the bytes
of two writes never mix.

A write whose token has fired is cancelled before its turn without a trace.
Once it sends, its token counts only when it resumes after a wait: a frame
that may be cut in the middle leaves the sender disposed. So does a write that
finds nobody listening, which still counts as done. A disposed sender drops
later frames silently. Disposing it on purpose shuts the socket down; a sender
that is disposed already has no socket worth shutting down.
-/
import ProxyTunnel.Socket

set_option autoImplicit false

namespace ProxyTunnel

/-- A socket for writing, and whether it is still good for that. -/
structure Sender where
  socket : Socket
  disposed : Bool

/-- How far a logical write has come. -/
inductive Stage where
  | waiting
  /-- So many bytes are still to be sent, and then flushed. -/
  | sending (rest : Bytes)
  | finished (result : Except Failure Unit)

/-- A logical write: a frame, or why it cannot be encoded, the token that may
cancel it, and how far it has come. -/
structure Write where
  token : Nat
  frame : Except WireError Bytes
  stage : Stage

namespace Stage

/-- Whether a write has its turn. -/
def hasTurn : Stage → Bool
  | sending _ => true
  | _ => false

/-- Whether a write is over. -/
def isFinished : Stage → Bool
  | finished _ => true
  | _ => false

/-- The result of a write; one that was given up is cancelled. -/
def result : Stage → Except Failure Unit
  | finished result => result
  | _ => .error .cancelled

end Stage

namespace Sender

/-! ## One write -/

/-- Whether a token has fired. -/
def hasFired (token : Nat) (s : Sender) : Bool := s.socket.journal.hasFired token

/-- Sends on: the rest of a frame, and then a flush. -/
def transmit (rest : Bytes) (s : Sender) : Stage × Sender :=
  match s.socket.pollTransmit rest with
  | (.pending, rest, socket) => (.sending rest, { s with socket })
  | (.ready (.ok ()), _, socket) => (.finished (.ok ()), { s with socket })
  | (.ready (.error e), _, socket) =>
    if e.fault.isClosed then
      (.finished (.ok ()), ⟨socket.record (.notice (.sinkClosed e)), true⟩)
    else
      (.finished (.error (.socket e)), { s with socket })

/-- Takes the turn of a write: drops the frame, refuses it, or begins to send. -/
def begin (frame : Except WireError Bytes) (s : Sender) : Stage × Sender :=
  if s.disposed then (.finished (.ok ()), s)
  else match frame with
    | .error e => (.finished (.error (.wire e)), s)
    | .ok bytes => s.transmit bytes

/-- One attempt to get a write done. `busy` tells that another has its turn. -/
def attempt (busy : Bool) (w : Write) (s : Sender) : Stage × Sender :=
  match w.stage with
  | .finished result => (.finished result, s)
  | .waiting =>
    if s.hasFired w.token then (.finished (.error .cancelled), s)
    else if busy then (.waiting, s)
    else s.begin w.frame
  | .sending rest =>
    -- resumed after a wait: part of the frame may be out already
    if s.hasFired w.token then (.finished (.error .cancelled), { s with disposed := true })
    else s.transmit rest

/-! ## Many writes -/

/-- One round: every write is attempted once, in order. -/
def round : (busy : Bool) → List Write → Sender → List Write × Sender
  | _, [], s => ([], s)
  | busy, w :: ws, s =>
    let (stage, s) := s.attempt busy w
    -- a write that ended within this attempt leaves the turn to the next one
    let (ws, s) := round (busy || stage.hasTurn) ws s
    ({ w with stage } :: ws, s)

/-- One attempt to get a single write done. -/
def attemptOne (state : Write × Sender) : Poll (Except Failure Unit) × (Write × Sender) :=
  let (stage, s) := state.2.attempt false state.1
  (match stage with
    | .finished result => .ready result
    | _ => .pending,
    ({ state.1 with stage }, s))

/-- A round as one attempt to get all writes done. -/
def attemptAll (state : List Write × Sender) : Poll Unit × (List Write × Sender) :=
  let after := round false state.1 state.2
  (if after.1.all (·.stage.isFinished) then .ready () else .pending, after)

/-! ## What a sender does is final -/

/-- Whatever happened before is still in the journal, and a sender that was
disposed still is. -/
def Follows (a b : Sender) : Prop :=
  a.socket.Follows b.socket ∧ (a.disposed = true → b.disposed = true)

theorem Follows.refl (s : Sender) : s.Follows s := ⟨Socket.Follows.refl _, id⟩

theorem Follows.trans {a b c : Sender} (h : a.Follows b) (h' : b.Follows c) : a.Follows c :=
  ⟨h.1.trans h'.1, h'.2 ∘ h.2⟩

theorem follows_transmit (rest : Bytes) (s : Sender) : s.Follows (s.transmit rest).2 := by
  have h := Socket.follows_pollTransmit rest s.socket
  unfold transmit
  split <;> rename_i heq <;> rw [heq] at h
  · exact ⟨h, id⟩
  · exact ⟨h, id⟩
  · split
    · exact ⟨h.trans (Socket.follows_record _ _), fun _ => rfl⟩
    · exact ⟨h, id⟩

theorem follows_begin (frame : Except WireError Bytes) (s : Sender) :
    s.Follows (s.begin frame).2 := by
  unfold begin
  split
  · exact Follows.refl s
  · split
    · exact Follows.refl s
    · exact follows_transmit _ s

theorem follows_attempt (busy : Bool) (w : Write) (s : Sender) :
    s.Follows (s.attempt busy w).2 := by
  unfold attempt
  split
  · exact Follows.refl s
  · split
    · exact Follows.refl s
    · split
      · exact Follows.refl s
      · exact follows_begin _ s
  · split
    · exact ⟨Socket.Follows.refl _, fun _ => rfl⟩
    · exact follows_transmit _ s

theorem follows_round (busy : Bool) (ws : List Write) (s : Sender) :
    s.Follows (round busy ws s).2 := by
  induction ws generalizing busy s with
  | nil => exact Follows.refl s
  | cons w ws ih => exact (follows_attempt busy w s).trans (ih _ _)

/-! ## Rounds use steps up -/

theorem stepsLeft_transmit_le (rest : Bytes) (s : Sender) :
    (s.transmit rest).2.socket.stepsLeft ≤ s.socket.stepsLeft := by
  have h := Socket.stepsLeft_pollTransmit_le rest s.socket
  unfold transmit
  split <;> (try split) <;> simp_all [Socket.record, Socket.stepsLeft]

theorem stepsLeft_transmit_lt (rest : Bytes) (s : Sender) (h : (s.transmit rest).1.hasTurn) :
    (s.transmit rest).2.socket.stepsLeft < s.socket.stepsLeft := by
  have hlt := Socket.stepsLeft_pollTransmit_lt rest s.socket
  unfold transmit at h ⊢
  split at h
  · simp_all
  · simp [Stage.hasTurn] at h
  · split at h <;> simp [Stage.hasTurn] at h

theorem stepsLeft_begin_le (frame : Except WireError Bytes) (s : Sender) :
    (s.begin frame).2.socket.stepsLeft ≤ s.socket.stepsLeft := by
  unfold begin
  split
  · exact Nat.le_refl _
  · split
    · exact Nat.le_refl _
    · exact stepsLeft_transmit_le _ s

theorem stepsLeft_attempt_le (busy : Bool) (w : Write) (s : Sender) :
    (s.attempt busy w).2.socket.stepsLeft ≤ s.socket.stepsLeft := by
  unfold attempt
  split
  · exact Nat.le_refl _
  · split
    · exact Nat.le_refl _
    · split
      · exact Nat.le_refl _
      · exact stepsLeft_begin_le _ s
  · split
    · exact Nat.le_refl _
    · exact stepsLeft_transmit_le _ s

/-- With nobody else's turn in the way, a write that is not finished has used a
step up. -/
theorem stepsLeft_attempt_lt (w : Write) (s : Sender)
    (h : (s.attempt false w).1.isFinished = false) :
    (s.attempt false w).1.hasTurn ∧
      (s.attempt false w).2.socket.stepsLeft < s.socket.stepsLeft := by
  have key : ∀ rest, (s.transmit rest).1.isFinished = false →
      (s.transmit rest).1.hasTurn ∧
        (s.transmit rest).2.socket.stepsLeft < s.socket.stepsLeft := by
    intro rest hf
    have ht : (s.transmit rest).1.hasTurn := by
      unfold transmit at hf ⊢
      split at hf
      · rfl
      · simp [Stage.isFinished] at hf
      · split at hf <;> simp [Stage.isFinished] at hf
    exact ⟨ht, stepsLeft_transmit_lt rest s ht⟩
  unfold attempt begin at h ⊢
  repeat' split at h
  all_goals simp_all [Stage.isFinished]

theorem stepsLeft_round_le (busy : Bool) (ws : List Write) (s : Sender) :
    (round busy ws s).2.socket.stepsLeft ≤ s.socket.stepsLeft := by
  induction ws generalizing busy s with
  | nil => exact Nat.le_refl _
  | cons w ws ih => exact Nat.le_trans (ih _ _) (stepsLeft_attempt_le busy w s)

theorem stepsLeft_round_lt (ws : List Write) (s : Sender)
    (h : (round false ws s).1.all (·.stage.isFinished) = false) :
    (round false ws s).2.socket.stepsLeft < s.socket.stepsLeft := by
  induction ws generalizing s with
  | nil => simp [round] at h
  | cons w ws ih =>
    by_cases hw : (s.attempt false w).1.isFinished
    · have ht : (s.attempt false w).1.hasTurn = false := by
        cases hs : (s.attempt false w).1 <;> simp_all [Stage.isFinished, Stage.hasTurn]
      simp only [round, ht, Bool.or_false, List.all_cons, hw, Bool.true_and] at h ⊢
      exact Nat.lt_of_lt_of_le (ih _ h) (stepsLeft_attempt_le false w s)
    · exact Nat.lt_of_le_of_lt (stepsLeft_round_le _ ws (s.attempt false w).2)
        (stepsLeft_attempt_lt w s (by simpa using hw)).2

/-! ## Waiting for writes -/

/-- A write that is about to start. -/
def newWrite (token : Nat) (frame : Except WireError Bytes) : Write := ⟨token, frame, .waiting⟩

/-- Getting a single write done. -/
def sendingOne : Operation (Write × Sender) (Except Failure Unit) where
  attempt := attemptOne
  patience state := state.2.socket.stepsLeft
  shrinks state h := by
    refine (stepsLeft_attempt_lt state.1 state.2 ?_).2
    cases hs : (state.2.attempt false state.1).1 with
    | finished result => simp [attemptOne, hs] at h
    | _ => rfl

/-- One write on its own. Whoever supervises it looks at the token first
whenever the write resumes, and then gives it up where it stands. -/
def send (supervised : Bool) (token : Nat) (frame : Except WireError Bytes) (s : Sender) :
    Except Failure Unit × Sender :=
  let giveUp (state : Write × Sender) : Option (Except Failure Unit) :=
    if supervised && state.2.hasFired token then some (.error .cancelled) else none
  let (result, _, s) := sendingOne.await giveUp (newWrite token frame, s)
  (result, s)

/-- Getting all writes done. -/
def sendingAll : Operation (List Write × Sender) Unit where
  attempt := attemptAll
  patience state := state.2.socket.stepsLeft
  shrinks state h := by
    refine stepsLeft_round_lt state.1 state.2 ?_
    simpa [attemptAll] using h

/-- Writes that are started together: their results, in the order given. -/
def join (writes : List Write) (s : Sender) : List (Except Failure Unit) × Sender :=
  let (_, writes, s) := sendingAll.run (writes, s)
  (writes.map (·.stage.result), s)

theorem follows_send (supervised : Bool) (token : Nat) (frame : Except WireError Bytes)
    (s : Sender) : s.Follows (s.send supervised token frame).2 :=
  sendingOne.await_keeps _ (fun a b => a.2.Follows b.2) (fun _ _ _ h h' => h.trans h')
    (fun state => follows_attempt false state.1 state.2) (newWrite token frame, s)

theorem follows_join (writes : List Write) (s : Sender) : s.Follows (s.join writes).2 :=
  sendingAll.await_keeps _ (fun a b => a.2.Follows b.2) (fun _ _ _ h h' => h.trans h')
    (fun state => follows_round false state.1 state.2) (writes, s)

/-! ## The end -/

/-- Disposes a sender and shuts its socket down, unless it was disposed before.
A shutdown that fails is only noted. -/
def dispose (s : Sender) : Sender :=
  if s.disposed then s
  else match Socket.shuttingDown.run s.socket with
    | (.ok (), socket) => ⟨socket, true⟩
    | (.error e, socket) => ⟨socket.record (.notice (.shutDownFailed e)), true⟩

theorem follows_dispose (s : Sender) : s.Follows s.dispose := by
  have h := Socket.shuttingDown.await_keeps (fun _ => none) Socket.Follows
    (fun _ _ _ h h' => h.trans h') Socket.follows_pollShutDown s.socket
  change s.socket.Follows (Socket.shuttingDown.run s.socket).2 at h
  unfold dispose
  split
  · exact Follows.refl s
  · split <;> rename_i heq <;> rw [heq] at h
    · exact ⟨h, fun _ => rfl⟩
    · exact ⟨h.trans (Socket.follows_record _ _), fun _ => rfl⟩

/-- Disposing leaves a sender disposed. -/
@[simp] theorem disposed_dispose (s : Sender) : s.dispose.disposed = true := by
  unfold dispose
  split
  · assumption
  · split <;> rfl

end Sender

end ProxyTunnel
