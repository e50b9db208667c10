/-
A socket whose other end follows a script.

Bytes arrive in pieces; a read takes at most as many bytes of a piece as it has
room for and leaves the rest to the next read. A piece of no bytes, like the
end of the script, is the end of the stream. A write takes as many bytes as its
step allows, by default all. Everything that reaches the socket is recorded in
its journal.
-/
import ProxyTunnel.Script

set_option autoImplicit false

namespace ProxyTunnel

/-- The scripts of the four operations, and the journal of the run. -/
structure Socket where
  /-- Pieces of bytes that arrive. -/
  reads : Script Bytes
  /-- How many bytes a write takes; all if there is no number. -/
  writes : Script (Option Nat)
  flushes : Script Unit
  shutDowns : Script Unit
  journal : Journal

namespace Socket

/-! ## The script -/

/-- How many steps are left. Every attempt that is not ready uses one up. -/
def stepsLeft (s : Socket) : Nat :=
  s.reads.length + s.writes.length + s.flushes.length + s.shutDowns.length

/-- The bytes a step of the read script brings. -/
def bytesOf : Step Bytes → Bytes
  | .ready bytes => bytes
  | _ => []

/-- The bytes that the script still holds. -/
def unread (s : Socket) : Bytes := s.reads.flatMap bytesOf

/-- Adds an entry to the journal. -/
def record (s : Socket) (entry : Entry) : Socket :=
  { s with journal := s.journal ++ [entry] }

/-- Cuts bytes into pieces of at most `size`, which is not zero. -/
def pieces (size : Nat) (bytes : Bytes) : List Bytes :=
  if _h : size = 0 ∨ bytes.length ≤ size then [bytes]
  else bytes.take size :: pieces size (bytes.drop size)
termination_by bytes.length
decreasing_by
  simp only [List.length_drop]
  omega

/-- Cuts the bytes of a read script into pieces of at most `size`. -/
def segmented (size : Nat) (script : Script Bytes) : Script Bytes :=
  script.flatMap fun
    | .ready bytes => (pieces size bytes).map .ready
    | step => [step]

/-! ## Attempts -/

/-- What is left of a piece after a read took its part. -/
def leftover (bytes : Bytes) (script : Script Bytes) : Script Bytes :=
  if bytes.isEmpty then script else .ready bytes :: script

/-- Attempts a read of at most `room` bytes. -/
def pollRead (room : Nat) (s : Socket) : Poll (Except SocketError Bytes) × Socket :=
  match Script.poll [] s.reads s.journal with
  | (.pending, reads, journal) => (.pending, { s with reads, journal })
  | (.ready (.error e), reads, journal) =>
    (.ready (.error e), { s with reads, journal := journal ++ [.event (.readFailed e.fault)] })
  | (.ready (.ok bytes), reads, journal) =>
    (.ready (.ok (bytes.take room)),
      { s with
        reads := leftover (bytes.drop room) reads
        journal := journal ++ [.event (.read (bytes.take room).length)] })

/-- Attempts to write bytes, and tells how many were taken. -/
def pollWrite (bytes : Bytes) (s : Socket) : Poll (Except SocketError Nat) × Socket :=
  match Script.poll none s.writes s.journal with
  | (.pending, writes, journal) => (.pending, { s with writes, journal })
  | (.ready (.error e), writes, journal) =>
    (.ready (.error e), { s with writes, journal := journal ++ [.event (.writeFailed e.fault)] })
  | (.ready (.ok limit), writes, journal) =>
    let taken := bytes.take (limit.getD bytes.length)
    (.ready (.ok taken.length), { s with writes, journal := journal ++ [.event (.wrote taken)] })

/-- Attempts to flush. -/
def pollFlush (s : Socket) : Poll (Except SocketError Unit) × Socket :=
  match Script.poll () s.flushes s.journal with
  | (.pending, flushes, journal) => (.pending, { s with flushes, journal })
  | (.ready (.error e), flushes, journal) =>
    (.ready (.error e), { s with flushes, journal := journal ++ [.event (.flushFailed e.fault)] })
  | (.ready (.ok ()), flushes, journal) =>
    (.ready (.ok ()), { s with flushes, journal := journal ++ [.event .flushed] })

/-- Attempts to shut the socket down. -/
def pollShutDown (s : Socket) : Poll (Except SocketError Unit) × Socket :=
  match Script.poll () s.shutDowns s.journal with
  | (.pending, shutDowns, journal) => (.pending, { s with shutDowns, journal })
  | (.ready (.error e), shutDowns, journal) =>
    (.ready (.error e),
      { s with shutDowns, journal := journal ++ [.event (.shutDownFailed e.fault)] })
  | (.ready (.ok ()), shutDowns, journal) =>
    (.ready (.ok ()), { s with shutDowns, journal := journal ++ [.event .shutDown] })

theorem stepsLeft_pollWrite_le (bytes : Bytes) (s : Socket) :
    (s.pollWrite bytes).2.stepsLeft ≤ s.stepsLeft := by
  have hs := Script.length_poll_le none s.writes s.journal
  unfold pollWrite
  split <;> simp_all [stepsLeft]

/-- A write that was not ready has used a step up. -/
theorem stepsLeft_pollWrite_lt (bytes : Bytes) (s : Socket)
    (h : (s.pollWrite bytes).1 = .pending) :
    (s.pollWrite bytes).2.stepsLeft < s.stepsLeft := by
  have hs := Script.length_poll_lt none s.writes s.journal
  unfold pollWrite at h ⊢
  split at h <;> simp_all [stepsLeft]

/-- A write that failed has used a step up. -/
theorem stepsLeft_pollWrite_lt_of_error (bytes : Bytes) (s : Socket) {e : SocketError}
    (h : (s.pollWrite bytes).1 = .ready (.error e)) :
    (s.pollWrite bytes).2.stepsLeft < s.stepsLeft := by
  have hs := fun e => Script.length_poll_lt_of_error none s.writes s.journal (e := e)
  unfold pollWrite at h ⊢
  split at h <;> simp_all [stepsLeft]

/-- Attempts to write all bytes, in as many writes as it takes, and tells which
bytes are left. A write that takes none of them is an error; one that is
interrupted is tried again at once. -/
def pollWriteAll (bytes : Bytes) (s : Socket) : Poll (Except SocketError Unit) × Bytes × Socket :=
  if _h : bytes = [] then (.ready (.ok ()), [], s)
  else match _hw : s.pollWrite bytes with
    | (.pending, s') => (.pending, bytes, s')
    | (.ready (.error e), s') =>
      if e.fault = .interrupted then pollWriteAll bytes s' else (.ready (.error e), bytes, s')
    | (.ready (.ok count), s') =>
      if _h0 : count = 0 then (.ready (.error .wroteNothing), bytes, s')
      else pollWriteAll (bytes.drop count) s'
termination_by s.stepsLeft + bytes.length
decreasing_by
  · have := stepsLeft_pollWrite_lt_of_error bytes s (by rw [_hw])
    rw [_hw] at this
    exact Nat.add_lt_add_right this _
  · have := stepsLeft_pollWrite_le bytes s
    have := List.length_pos_iff.2 _h
    simp_all only [List.length_drop]
    omega

/-- Attempts to write all bytes and then to flush. -/
def pollTransmit (bytes : Bytes) (s : Socket) : Poll (Except SocketError Unit) × Bytes × Socket :=
  match s.pollWriteAll bytes with
  | (.ready (.ok ()), rest, s') => ((s'.pollFlush).1, rest, (s'.pollFlush).2)
  | answer => answer

/-! ## Waiting uses steps up -/

theorem stepsLeft_pollRead_lt (room : Nat) (s : Socket) (h : (s.pollRead room).1 = .pending) :
    (s.pollRead room).2.stepsLeft < s.stepsLeft := by
  have hs := Script.length_poll_lt [] s.reads s.journal
  unfold pollRead at h ⊢
  split at h <;> simp_all [stepsLeft]

theorem stepsLeft_pollFlush_le (s : Socket) : s.pollFlush.2.stepsLeft ≤ s.stepsLeft := by
  have hs := Script.length_poll_le () s.flushes s.journal
  unfold pollFlush
  split <;> simp_all [stepsLeft]

theorem stepsLeft_pollFlush_lt (s : Socket) (h : s.pollFlush.1 = .pending) :
    s.pollFlush.2.stepsLeft < s.stepsLeft := by
  have hs := Script.length_poll_lt () s.flushes s.journal
  unfold pollFlush at h ⊢
  split at h <;> simp_all [stepsLeft]

theorem stepsLeft_pollShutDown_lt (s : Socket) (h : s.pollShutDown.1 = .pending) :
    s.pollShutDown.2.stepsLeft < s.stepsLeft := by
  have hs := Script.length_poll_lt () s.shutDowns s.journal
  unfold pollShutDown at h ⊢
  split at h <;> simp_all [stepsLeft]

theorem stepsLeft_pollWriteAll_le (bytes : Bytes) (s : Socket) :
    (s.pollWriteAll bytes).2.2.stepsLeft ≤ s.stepsLeft := by
  fun_induction pollWriteAll bytes s with
  | case1 => exact Nat.le_refl _
  | case2 bytes s _ s' h => simpa [h] using stepsLeft_pollWrite_le bytes s
  | case3 bytes s _ e s' h _ ih =>
    have := stepsLeft_pollWrite_le bytes s
    rw [h] at this
    exact Nat.le_trans ih this
  | case4 bytes s _ e s' h => simpa [h] using stepsLeft_pollWrite_le bytes s
  | case5 bytes s _ s' h => simpa [h] using stepsLeft_pollWrite_le bytes s
  | case6 bytes s _ count s' h _ ih =>
    have := stepsLeft_pollWrite_le bytes s
    rw [h] at this
    exact Nat.le_trans ih this

theorem stepsLeft_pollWriteAll_lt (bytes : Bytes) (s : Socket)
    (hp : (s.pollWriteAll bytes).1 = .pending) :
    (s.pollWriteAll bytes).2.2.stepsLeft < s.stepsLeft := by
  fun_induction pollWriteAll bytes s with
  | case1 => cases hp
  | case2 bytes s _ s' h => simpa [h] using stepsLeft_pollWrite_lt bytes s
  | case3 bytes s _ e s' h _ ih =>
    have := stepsLeft_pollWrite_le bytes s
    rw [h] at this
    exact Nat.lt_of_lt_of_le (ih hp) this
  | case4 => cases hp
  | case5 => cases hp
  | case6 bytes s _ count s' h _ ih =>
    have := stepsLeft_pollWrite_le bytes s
    rw [h] at this
    exact Nat.lt_of_lt_of_le (ih hp) this

theorem stepsLeft_pollTransmit_le (bytes : Bytes) (s : Socket) :
    (s.pollTransmit bytes).2.2.stepsLeft ≤ s.stepsLeft := by
  have hle := stepsLeft_pollWriteAll_le bytes s
  unfold pollTransmit
  split
  · rename_i rest s' heq
    rw [heq] at hle
    exact Nat.le_trans (stepsLeft_pollFlush_le s') hle
  · exact hle

theorem stepsLeft_pollTransmit_lt (bytes : Bytes) (s : Socket)
    (h : (s.pollTransmit bytes).1 = .pending) :
    (s.pollTransmit bytes).2.2.stepsLeft < s.stepsLeft := by
  have hle := stepsLeft_pollWriteAll_le bytes s
  have hlt := stepsLeft_pollWriteAll_lt bytes s
  unfold pollTransmit at h ⊢
  split at h
  · rename_i rest s' heq
    rw [heq] at hle
    exact Nat.lt_of_lt_of_le (stepsLeft_pollFlush_lt s' h) hle
  · exact hlt h

/-! ## The journal only grows -/

/-- Whatever happened before is still in the journal. -/
def Follows (a b : Socket) : Prop := a.journal <+: b.journal

theorem Follows.refl (s : Socket) : s.Follows s := List.prefix_refl _

theorem Follows.trans {a b c : Socket} (h : a.Follows b) (h' : b.Follows c) : a.Follows c :=
  List.IsPrefix.trans h h'

theorem follows_record (s : Socket) (entry : Entry) : s.Follows (s.record entry) :=
  List.prefix_append _ _

theorem follows_pollRead (room : Nat) (s : Socket) : s.Follows (s.pollRead room).2 := by
  have h := Script.journal_poll_grows [] s.reads s.journal
  unfold Follows pollRead
  split <;> rename_i heq <;> rw [heq] at h
  · exact h
  · exact h.trans (List.prefix_append _ _)
  · exact h.trans (List.prefix_append _ _)

theorem follows_pollWrite (bytes : Bytes) (s : Socket) : s.Follows (s.pollWrite bytes).2 := by
  have h := Script.journal_poll_grows none s.writes s.journal
  unfold Follows pollWrite
  split <;> rename_i heq <;> rw [heq] at h
  · exact h
  · exact h.trans (List.prefix_append _ _)
  · exact h.trans (List.prefix_append _ _)

theorem follows_pollFlush (s : Socket) : s.Follows s.pollFlush.2 := by
  have h := Script.journal_poll_grows () s.flushes s.journal
  unfold Follows pollFlush
  split <;> rename_i heq <;> rw [heq] at h
  · exact h
  · exact h.trans (List.prefix_append _ _)
  · exact h.trans (List.prefix_append _ _)

theorem follows_pollShutDown (s : Socket) : s.Follows s.pollShutDown.2 := by
  have h := Script.journal_poll_grows () s.shutDowns s.journal
  unfold Follows pollShutDown
  split <;> rename_i heq <;> rw [heq] at h
  · exact h
  · exact h.trans (List.prefix_append _ _)
  · exact h.trans (List.prefix_append _ _)

theorem follows_pollWriteAll (bytes : Bytes) (s : Socket) :
    s.Follows (s.pollWriteAll bytes).2.2 := by
  fun_induction pollWriteAll bytes s with
  | case1 => exact Follows.refl _
  | case2 bytes s _ s' h => simpa [h] using follows_pollWrite bytes s
  | case3 bytes s _ e s' h _ ih =>
    exact Follows.trans (by simpa [h] using follows_pollWrite bytes s) ih
  | case4 bytes s _ e s' h => simpa [h] using follows_pollWrite bytes s
  | case5 bytes s _ s' h => simpa [h] using follows_pollWrite bytes s
  | case6 bytes s _ count s' h _ ih =>
    exact Follows.trans (by simpa [h] using follows_pollWrite bytes s) ih

theorem follows_pollTransmit (bytes : Bytes) (s : Socket) :
    s.Follows (s.pollTransmit bytes).2.2 := by
  have h := follows_pollWriteAll bytes s
  unfold pollTransmit
  split
  · rename_i rest s' heq
    rw [heq] at h
    exact h.trans (follows_pollFlush s')
  · exact h

/-! ## Reading uses up what the script holds -/

/-- The bytes that an attempt to read brought. -/
def received : Poll (Except SocketError Bytes) → Bytes
  | .ready (.ok bytes) => bytes
  | _ => []

/-- The bytes that a read script holds. -/
def held (script : Script Bytes) : Bytes := script.flatMap bytesOf

theorem held_poll (script : Script Bytes) (journal : Journal) :
    held script = received (Script.poll [] script journal).1 ++
      held (Script.poll [] script journal).2.1 := by
  induction script generalizing journal with
  | nil => rfl
  | cons step script ih =>
    cases step with
    | fire token => simpa [held, bytesOf, Script.poll] using ih _
    | _ => rfl

theorem held_leftover (bytes : Bytes) (script : Script Bytes) :
    held (leftover bytes script) = bytes ++ held script := by
  unfold leftover
  split <;> simp_all [held, bytesOf]

/-- The bytes that arrive are the next ones of the script. -/
theorem unread_pollRead (room : Nat) (s : Socket) :
    s.unread = received (s.pollRead room).1 ++ (s.pollRead room).2.unread := by
  have h := held_poll s.reads s.journal
  unfold pollRead
  split
  · simp_all [unread, held, received]
  · simp_all [unread, held, received]
  · rename_i bytes reads journal heq
    have hl := held_leftover (bytes.drop room) reads
    rw [heq] at h
    simp only [unread, received, held] at h hl ⊢
    rw [h, hl, ← List.append_assoc, List.take_append_drop]

theorem stepsLeft_pollRead_le (room : Nat) (s : Socket) :
    (s.pollRead room).2.stepsLeft ≤ s.stepsLeft := by
  have hle := Script.length_poll_le [] s.reads s.journal
  have hlt := fun bytes => Script.length_poll_lt_of_ne [] bytes s.reads s.journal
  unfold pollRead
  split
  · simp_all [stepsLeft]
  · simp_all [stepsLeft]
  · rename_i bytes reads journal heq
    rw [heq] at hle
    have hb := hlt bytes (by rw [heq])
    rw [heq] at hb
    have hr : (leftover (bytes.drop room) reads).length ≤ s.reads.length := by
      unfold leftover
      split
      · exact hle
      · rename_i hd
        have : bytes ≠ [] := by
          rintro rfl
          simp at hd
        exact hb this
    simp only [stepsLeft]
    omega

/-- Everything a reader may still have to wait for: steps and bytes. -/
def backlog (s : Socket) : Nat := s.stepsLeft + s.unread.length

theorem backlog_pollRead_le (room : Nat) (s : Socket) :
    (s.pollRead room).2.backlog ≤ s.backlog := by
  have h1 := stepsLeft_pollRead_le room s
  have h2 := congrArg List.length (unread_pollRead room s)
  rw [List.length_append] at h2
  simp only [backlog]
  omega

theorem backlog_pollRead_lt (room : Nat) (s : Socket) (h : received (s.pollRead room).1 ≠ []) :
    (s.pollRead room).2.backlog < s.backlog := by
  have h1 := stepsLeft_pollRead_le room s
  have h2 := congrArg List.length (unread_pollRead room s)
  have h3 := List.length_pos_iff.2 h
  rw [List.length_append] at h2
  simp only [backlog]
  omega

/-! ## Operations that wait -/

/-- A read of at most `room` bytes. -/
def reading (room : Nat) : Operation Socket (Except SocketError Bytes) :=
  ⟨pollRead room, stepsLeft, stepsLeft_pollRead_lt room⟩

/-- One write. -/
def writing (bytes : Bytes) : Operation Socket (Except SocketError Nat) :=
  ⟨pollWrite bytes, stepsLeft, stepsLeft_pollWrite_lt bytes⟩

/-- Writes until all bytes of the state are taken. -/
def writingAll : Operation (Bytes × Socket) (Except SocketError Unit) :=
  ⟨fun s => s.2.pollWriteAll s.1, fun s => s.2.stepsLeft,
    fun s => stepsLeft_pollWriteAll_lt s.1 s.2⟩

/-- A flush. -/
def flushing : Operation Socket (Except SocketError Unit) :=
  ⟨pollFlush, stepsLeft, stepsLeft_pollFlush_lt⟩

/-- A shutdown. -/
def shuttingDown : Operation Socket (Except SocketError Unit) :=
  ⟨pollShutDown, stepsLeft, stepsLeft_pollShutDown_lt⟩

/-- Writes all bytes, however long it takes. -/
def writeAll (bytes : Bytes) (s : Socket) : Except SocketError Unit × Socket :=
  let (result, _, s') := writingAll.run (bytes, s)
  (result, s')

end Socket

end ProxyTunnel
