/-
Concurrent writes never interleave.

Callers write parcels on one sender: alone or many at once, resumed in any
order, each with a token that may fire at any time. The socket sees them one
after the other. What it takes of each is one piece, the pieces stand in the
order in which the writes got the turn, which is the order in which they asked
for it, and each piece begins the frame of its own write. A write that returns
success on a usable sender is out, with one flush behind it, before the next one
begins. A write that is refused, or cancelled while it waits, leaves nothing
behind.
-/
import ProxyTunnel.Proofs.Queue
import ProxyTunnel.Parcel

set_option autoImplicit false

namespace ProxyTunnel

open Event

variable {M : Type}

/-! ## Calls -/

/-- What callers and the environment may do. -/
inductive Call (M : Type) where
  | write (token : Nat) (parcel : Parcel M)
  | resume (i : Nat)
  | fire (token : Nat)
  | dispose

namespace Call

/-- A call as a move of the queue. -/
def move (encode : Encoder M) : Call M → Move
  | write token parcel => .start token (parcel.frame encode)
  | resume i => .poll i
  | fire token => .fire token
  | dispose => .dispose

/-- The parcel that a call hands over. -/
def parcel? : Call M → Option (Parcel M)
  | write _ parcel => some parcel
  | _ => none

end Call

namespace Queue

/-- The queue after calls. -/
def serve (encode : Encoder M) (q : Queue) (calls : List (Call M)) : Queue :=
  q.run (calls.map (Call.move encode))

theorem serve_append (encode : Encoder M) (q : Queue) (a b : List (Call M)) :
    q.serve encode (a ++ b) = (q.serve encode a).serve encode b := by
  rw [serve, List.map_append, run_append]
  rfl

/-! ## Frames -/

/-- The frame of every write. -/
def frames (q : Queue) : List (Except WireError Bytes) := q.desk.writes.map (·.frame)

theorem frames_attempt (d : Desk) {i : Nat} {w : Write} (hw : d.writes[i]? = some w) :
    (d.attempt i w).writes.map (·.frame) = d.writes.map (·.frame) := by
  obtain ⟨hlt, rfl⟩ := List.getElem?_eq_some_iff.1 hw
  have hlt' : i < (d.writes.map (·.frame)).length := by rwa [List.length_map]
  have hself := List.set_getElem_self hlt'
  rw [List.getElem_map] at hself
  exact List.map_set.trans hself

/-- Only a new write adds a frame. -/
theorem frames_step (encode : Encoder M) (q : Queue) (call : Call M) :
    (q.step (call.move encode)).frames =
      q.frames ++ call.parcel?.toList.map (·.frame encode) := by
  rcases call with ⟨token, parcel⟩ | i | token | _
  · exact List.map_append
  · refine Eq.trans ?_ (List.append_nil _).symm
    unfold frames
    rcases q.desk_step (.poll i) with ⟨h, _⟩ | h
    all_goals
      change List.map _ (q.step (.poll i)).desk.writes = _
      rw [h]
    rcases hw : q.desk.writes[i]? with _ | w
    · rw [Desk.step_poll_of_none hw]
    · rw [Desk.step_poll hw, frames_attempt q.desk hw]
  · exact (List.append_nil _).symm
  · refine Eq.trans ?_ (List.append_nil _).symm
    change (q.desk.step .dispose).writes.map _ = _
    unfold Desk.step
    dsimp only
    split
    · rfl
    · rfl

theorem frames_serve (encode : Encoder M) (q : Queue) (calls : List (Call M)) :
    (q.serve encode calls).frames =
      q.frames ++ (calls.filterMap Call.parcel?).map (·.frame encode) := by
  induction calls generalizing q with
  | nil => exact (List.append_nil _).symm
  | cons call calls ih =>
    change ((q.step (call.move encode)).serve encode calls).frames = _
    rw [ih, frames_step, List.append_assoc, ← List.map_append]
    congr 2
    rcases call with ⟨token, parcel⟩ | i | token | _ <;> rfl

/-- The frame of a write is that of its parcel. -/
theorem frame_of_write {encode : Encoder M} {s : Sender} {calls : List (Call M)} {i : Nat}
    {w : Write} (hw : ((of s).serve encode calls).desk.writes[i]? = some w) :
    (calls.filterMap Call.parcel?)[i]?.map (·.frame encode) = some w.frame := by
  have hframes := frames_serve encode (of s) calls
  rw [← List.getElem?_map]
  change _ = [] ++ _ at hframes
  rw [List.nil_append] at hframes
  rw [← hframes, frames, List.getElem?_map, hw]
  rfl

theorem desk_serve (encode : Encoder M) (q : Queue) (calls : List (Call M)) :
    ∃ moves, (q.serve encode calls).desk = q.desk.run moves := desk_run q _

/-! ## The socket sees one write after the other -/

/-- Resuming a write that ends refused, or cancelled without its turn, leaves
the sender as it was. -/
theorem disposed_of_quiet {encode : Encoder M} {s : Sender} {calls before after : List (Call M)}
    {i : Nat} (hcalls : calls = before ++ .resume i :: after)
    (hi : (∃ e, ((of s).serve encode calls).desk.Returned i (.error (.wire e))) ∨
      ((of s).serve encode calls).desk.Returned i (.error .cancelled) ∧
        i ∉ ((of s).serve encode calls).desk.turns) :
    ((of s).serve encode (before ++ [.resume i])).desk.sender.disposed =
      ((of s).serve encode before).desk.sender.disposed := by
  have hbefore : ((of s).serve encode before).Inv := (inv_of s).run _
  have hsplit : calls = (before ++ [.resume i]) ++ after := by
    rw [hcalls, List.append_assoc, List.singleton_append]
  obtain ⟨more, hmore⟩ := desk_serve encode ((of s).serve encode (before ++ [.resume i])) after
  rw [← serve_append, ← hsplit] at hmore
  rw [hmore] at hi
  -- whatever the write returned on being resumed, it has returned at the end
  rw [serve_append] at hi ⊢
  change _ ∨ _ at hi
  generalize (of s).serve encode before = q at hbefore hi ⊢
  change (q.step (.poll i)).desk.sender.disposed = _
  change (∃ e, ((q.step (.poll i)).desk.run more).Returned i (.error (.wire e))) ∨
    ((q.step (.poll i)).desk.run more).Returned i (.error .cancelled) ∧
      i ∉ ((q.step (.poll i)).desk.run more).turns at hi
  rcases q.desk_step (.poll i) with ⟨hsame, _⟩ | hstep
  · rw [hsame]
  rw [hstep] at hi ⊢
  rcases hbefore.desk.disposed_step (.poll i) with hkept | hdispose | ⟨j, hj, hturn, hend⟩
  · exact hkept
  · cases hdispose
  cases hj
  have hturn' := (Desk.turns_run _ more).subset hturn
  rcases hi with ⟨e, hr⟩ | ⟨hr, hno⟩
  · rcases hend with hok | hcancelled
    · cases (Desk.settled_run hok more).1.unique hr
    · cases (Desk.settled_run hcancelled more).1.unique hr
  · exact absurd hturn' hno

/-- A write that returned success while the sender was usable is out as a whole,
and remains so. -/
theorem whole_of_ok {encode : Encoder M} {s : Sender} {before : List (Call M)} {i : Nat}
    (hr : ((of s).serve encode before).desk.Returned i (.ok ()))
    (usable : ((of s).serve encode before).desk.sender.disposed = false)
    (after : List (Call M)) :
    ∃ bytes, ((before ++ after).filterMap Call.parcel?)[i]?.map (·.frame encode) =
        some (.ok bytes) ∧
      parts (((of s).serve encode (before ++ after)).desk.events i) = ([bytes], []) := by
  have hbefore : ((of s).serve encode before).Inv := (inv_of s).run _
  obtain ⟨w, bytes, hw, hframe, hparts⟩ := hbefore.desk.whole_of_ok hr usable
  obtain ⟨more, hmore⟩ := desk_serve encode ((of s).serve encode before) after
  have hsettled := Desk.settled_run hr more
  rw [← hmore, ← serve_append] at hsettled
  refine ⟨bytes, ?_, hsettled.2.symm ▸ hparts⟩
  have hparcel := frame_of_write hw
  rw [hframe] at hparcel
  obtain ⟨parcel, hget, _⟩ := Option.map_eq_some_iff.1 hparcel
  rw [List.filterMap_append, List.getElem?_append_left (List.getElem?_eq_some_iff.1 hget).1]
  exact hparcel

/-- **Writes never interleave, and those that succeed are complete.** In every
run of every sender:

* what the socket took is one piece for each write that got its turn, in the
  order in which they got it, and they got it in the order in which they asked;
* the piece of a write begins its own frame, which for a batch is made of the
  codes of its messages, one after the other;
* a write that returned success while the sender was usable is out, all of it,
  with one flush behind it;
* a write that was refused, or cancelled before its turn, sent nothing, flushed
  nothing and left the sender as it was. -/
theorem writes_never_interleave (encode : Encoder M) (s : Sender) (calls : List (Call M)) :
    let q := (of s).serve encode calls
    let d := q.desk
    let frame? (i : Nat) := (calls.filterMap Call.parcel?)[i]?.map (·.frame encode)
    (d.turns.Nodup ∧ d.turns.Sublist q.asked ∧
      d.sentEvents = (Desk.of s).sentEvents ++ d.turns.flatMap d.events ∧
      d.written = s.socket.journal.written ++ d.turns.flatMap d.sent) ∧
    ((∀ i, d.sent i = [] ∨ ∃ bytes, frame? i = some (.ok bytes) ∧ d.sent i <+: bytes) ∧
      ∀ code, encode.Appends code → ∀ ms bytes, (Parcel.batch ms).frame encode = .ok bytes ↔
        ∃ pieces : List Bytes, ms.map code = pieces.map .ok ∧ bytes = pieces.flatten) ∧
    (∀ before after, calls = before ++ after → ∀ i,
      ((of s).serve encode before).desk.Returned i (.ok ()) →
      ((of s).serve encode before).desk.sender.disposed = false →
      ∃ bytes, frame? i = some (.ok bytes) ∧ parts (d.events i) = ([bytes], [])) ∧
    ∀ i, ((∃ e, d.Returned i (.error (.wire e))) ∨
        d.Returned i (.error .cancelled) ∧ i ∉ d.turns) →
      d.events i = [] ∧ ∀ before after, calls = before ++ .resume i :: after →
        ((of s).serve encode (before ++ [.resume i])).desk.sender.disposed =
          ((of s).serve encode before).desk.sender.disposed := by
  intro q d frame?
  have hq : q.Inv := (inv_of s).run _
  have h : d.Inv := hq.desk
  obtain ⟨moves, hmoves⟩ := desk_run (of s) (calls.map (Call.move encode))
  have hd : d = (Desk.of s).run moves := hmoves
  have hsilent : d.Silent := by
    rw [hd]
    exact (Desk.silent_of s).run (Desk.inv_of s) moves
  refine ⟨⟨h.once, hq.turns_sublist, ?_, ?_⟩, ⟨?_, ?_⟩, ?_, ?_⟩
  · rw [hd]
    exact Desk.sentEvents_run s moves
  · rw [hd]
    exact Desk.written_run s moves
  · intro i
    rcases h.sent_cases i with hnil | ⟨w, hw, hframe⟩ | ⟨w, bytes, hw, hframe, _, hpart, _⟩
    · exact .inl hnil
    · exact .inr ⟨d.sent i, hframe ▸ frame_of_write hw, List.prefix_refl _⟩
    · exact .inr ⟨bytes, hframe ▸ frame_of_write hw, hpart⟩
  · intro code happends ms bytes
    rw [Parcel.frame_batch happends]
    exact concatParts_eq_ok
  · rintro before after rfl i hr usable
    exact whole_of_ok hr usable after
  · intro i hi
    refine ⟨?_, ?_⟩
    · rcases hi with ⟨e, hr⟩ | ⟨_, hturn⟩
      · exact hsilent.events_of_refused h hr
      · by_contra hne
        exact hturn (hsilent.turn i hne)
    · intro before after hcalls
      exact disposed_of_quiet hcalls hi

/-- Messages that come encoded, or refused. -/
def encoded : Encoder (Except WireError Bytes) := fun m buffer => m.map (buffer ++ ·)

/-- A sender whose socket takes one byte and then has the caller wait. -/
def halting : Sender := ⟨⟨[], [.ready (some 1), .pending], [], [], []⟩, false⟩

/-- Four writes, all started before the first is out. The second is refused in
the middle of its batch, and the third is cancelled in line. The fourth is
resumed again and again, but it comes last. -/
def crowd : List (Call (Except WireError Bytes)) :=
  [.write 0 (.raw [97, 98]), .write 1 (.batch [.ok [1], .error (.tooLarge 300)]),
    .write 2 (.message (.ok [2])), .write 3 (.batch [.ok [99], .ok [100]]),
    .resume 0, .resume 1, .resume 2, .resume 3, .fire 2, .resume 2, .resume 3, .resume 0,
    .resume 3, .resume 1, .resume 3]

/-- Two whole frames come out of a crowd of four, and nothing of the others. -/
theorem writes_never_interleave_applied :
    let d := ((of halting).serve encoded crowd).desk
    d.written = [0, 1, 3].flatMap d.sent ∧
      parts (d.events 0) = ([[97, 98]], []) ∧ parts (d.events 3) = ([[99, 100]], []) ∧
      d.events 1 = [] ∧ d.events 2 = [] := by
  intro d
  obtain ⟨⟨_, _, _, hwritten⟩, _, hwhole, hnothing⟩ := writes_never_interleave encoded halting crowd
  have hturns : d.turns = [0, 1, 3] := by decide +kernel
  have husable : d.sender.disposed = false := by decide +kernel
  have hfirst : d.Returned 0 (.ok ()) :=
    ⟨⟨0, .ok [97, 98], .finished (.ok ())⟩, by decide +kernel, rfl⟩
  have hsecond : d.Returned 1 (.error (.wire (.tooLarge 300))) :=
    ⟨⟨1, .error (.tooLarge 300), .finished (.error (.wire (.tooLarge 300)))⟩,
      by decide +kernel, rfl⟩
  have hthird : d.Returned 2 (.error .cancelled) :=
    ⟨⟨2, .ok [2], .finished (.error .cancelled)⟩, by decide +kernel, rfl⟩
  have hfourth : d.Returned 3 (.ok ()) :=
    ⟨⟨3, .ok [99, 100], .finished (.ok ())⟩, by decide +kernel, rfl⟩
  refine ⟨hturns ▸ hwritten, ?_, ?_, ?_, ?_⟩
  · obtain ⟨bytes, hframe, hparts⟩ := hwhole crowd [] (List.append_nil _).symm 0 hfirst husable
    cases hframe
    exact hparts
  · obtain ⟨bytes, hframe, hparts⟩ := hwhole crowd [] (List.append_nil _).symm 3 hfourth husable
    cases hframe
    exact hparts
  · exact (hnothing 1 (.inl ⟨_, hsecond⟩)).1
  · refine (hnothing 2 (.inr ⟨hthird, ?_⟩)).1
    change 2 ∉ d.turns
    rw [hturns]
    decide

end Queue

end ProxyTunnel
