/-
Framing rules: where one package ends in a stream of bytes.

A rule looks at the bytes received so far. If they begin with a whole frame it
removes exactly that frame and decodes one package; otherwise it waits and
removes nothing. A decoded package may come with the rule for the next frame,
which is how a handshake walks from one framing to another.

There are three kinds of rules. A line ends with CR LF, has at most so many
bytes before it, and is text, repaired where it is not UTF-8. A frame of fixed
size is known before any byte arrives. A headed frame begins with a header of
fixed size that declares the length of the body behind it. Sizes are machine
words of 64 bits, and so are their sums.

A line rule remembers how far it searched in vain, and resumes one byte before:
the last byte it saw may have been the CR of a terminator still to come.
-/
import ProxyTunnel.Text.Utf8
import ProxyTunnel.Wire.Error

set_option autoImplicit false

namespace ProxyTunnel

/-- A framing rule for packages of type `α`. Decoders are given whole frames,
header included. -/
inductive Framing (α : Type) where
  /-- Lines of at most `limit` bytes; `searched` bytes hold no terminator. -/
  | line (limit : UInt64) (searched : Nat) (make : String → α)
  | fixed (size : UInt64) (decode : Bytes → Except WireError (α × Option (Framing α)))
  | headed (header : UInt64) (bodyLength : Bytes → Except WireError UInt64)
      (decode : Bytes → Except WireError (α × Option (Framing α)))

namespace Framing

variable {α : Type}

/-- What a rule makes of the bytes received so far. -/
inductive Answer (α : Type) where
  /-- No frame is complete. -/
  | waiting
  | package (content : α) (next : Option (Framing α))
  | refused (e : WireError)

/-- An answer, the rule as it goes on, and the bytes it leaves. -/
structure Cut (α : Type) where
  answer : Answer α
  framing : Framing α
  rest : Bytes

/-! ## Lines -/

/-- The longest line where nobody asked for another limit. -/
def defaultLimit : UInt64 := 8192

/-- Lines from the start. -/
def lines (limit : UInt64) (make : String → α) : Framing α :=
  line limit 0 make

/-- The position of the first CR LF. -/
def findTerminator : Bytes → Option Nat
  | 13 :: 10 :: _ => some 0
  | _ :: bytes => (findTerminator bytes).map (· + 1)
  | [] => none

/-- The position of the first CR LF, searched from one byte before the given
place. -/
def findTerminatorFrom (searched : Nat) (buffer : Bytes) : Option Nat :=
  let start := min (searched - 1) buffer.length
  (findTerminator (buffer.drop start)).map (start + ·)

/-- Cuts a line off. A line of full length may still wait for its LF, so an
unterminated buffer may be one byte longer than the limit. -/
def cutLine (limit : UInt64) (searched : Nat) (make : String → α) (buffer : Bytes) : Cut α :=
  match findTerminatorFrom searched buffer with
  | none =>
    -- one byte past the limit may be the CR of a terminator still to come
    if (limit + 1).toNat < buffer.length then
      ⟨.refused (.lineTooLong limit.toNat), line limit searched make, buffer⟩
    else ⟨.waiting, line limit buffer.length make, buffer⟩
  | some position =>
    if limit.toNat < position then
      ⟨.refused (.lineTooLong limit.toNat), line limit searched make, buffer⟩
    else
      ⟨.package (make (Utf8.decodeLossy (buffer.take position))) none, line limit 0 make,
        buffer.drop (position + 2)⟩

/-! ## Frames of known size -/

/-- The answer of a decoder that was given a whole frame. -/
def ofDecoded : Except WireError (α × Option (Framing α)) → Answer α
  | .ok (content, next) => .package content next
  | .error e => .refused e

/-- Cuts off the first `size` bytes once they are there. -/
def cutFrame (rule : Framing α) (size : UInt64)
    (decode : Bytes → Except WireError (α × Option (Framing α))) (buffer : Bytes) : Cut α :=
  if buffer.length < size.toNat then ⟨.waiting, rule, buffer⟩
  else ⟨ofDecoded (decode (buffer.take size.toNat)), rule, buffer.drop size.toNat⟩

/-- Cuts off a header and the body it declares. A header that declares none is
left where it is. -/
def cutHeaded (rule : Framing α) (header : UInt64) (bodyLength : Bytes → Except WireError UInt64)
    (decode : Bytes → Except WireError (α × Option (Framing α))) (buffer : Bytes) : Cut α :=
  if buffer.length < header.toNat then ⟨.waiting, rule, buffer⟩
  else match bodyLength (buffer.take header.toNat) with
    | .error e => ⟨.refused e, rule, buffer⟩
    | .ok body => cutFrame rule (header + body) decode buffer

/-! ## All rules -/

/-- Cuts one package off the bytes received so far. -/
def cut (rule : Framing α) (buffer : Bytes) : Cut α :=
  match rule with
  | line limit searched make => cutLine limit searched make buffer
  | fixed size decode => cutFrame rule size decode buffer
  | headed header bodyLength decode => cutHeaded rule header bodyLength decode buffer

/-! ## What a cut can come to -/

/-- Who has decoded a frame waits no longer. -/
theorem ofDecoded_ne_waiting (decoded : Except WireError (α × Option (Framing α))) :
    ofDecoded decoded ≠ .waiting := by
  cases decoded <;> simp [ofDecoded]

theorem ofDecoded_eq_package {decoded : Except WireError (α × Option (Framing α))} {content : α}
    {next : Option (Framing α)} (h : ofDecoded decoded = .package content next) :
    decoded = .ok (content, next) := by
  cases decoded with
  | error e => cases h
  | ok decoded =>
    cases h
    rfl

/-- A line rule waits, finds that the line is too long, or has it. -/
theorem cutLine_cases (limit : UInt64) (searched : Nat) (make : String → α) (buffer : Bytes) :
    (findTerminatorFrom searched buffer = none ∧ buffer.length ≤ (limit + 1).toNat ∧
      cutLine limit searched make buffer =
        ⟨.waiting, line limit buffer.length make, buffer⟩) ∨
    cutLine limit searched make buffer =
      ⟨.refused (.lineTooLong limit.toNat), line limit searched make, buffer⟩ ∨
    ∃ position, findTerminatorFrom searched buffer = some position ∧ position ≤ limit.toNat ∧
      cutLine limit searched make buffer =
        ⟨.package (make (Utf8.decodeLossy (buffer.take position))) none, line limit 0 make,
          buffer.drop (position + 2)⟩ := by
  unfold cutLine
  cases findTerminatorFrom searched buffer with
  | none =>
    by_cases hlong : (limit + 1).toNat < buffer.length
    · exact .inr (.inl (if_pos hlong))
    · exact .inl ⟨rfl, Nat.le_of_not_lt hlong, if_neg hlong⟩
  | some position =>
    by_cases hlong : limit.toNat < position
    · exact .inr (.inl (if_pos hlong))
    · exact .inr (.inr ⟨position, rfl, Nat.le_of_not_lt hlong, if_neg hlong⟩)

/-- A frame of known size is there as a whole, or the rule waits. -/
theorem cutFrame_cases (rule : Framing α) (size : UInt64)
    (decode : Bytes → Except WireError (α × Option (Framing α))) (buffer : Bytes) :
    (buffer.length < size.toNat ∧ cutFrame rule size decode buffer = ⟨.waiting, rule, buffer⟩) ∨
    ∃ frame rest, buffer = frame ++ rest ∧ frame.length = size.toNat ∧
      cutFrame rule size decode buffer = ⟨ofDecoded (decode frame), rule, rest⟩ := by
  unfold cutFrame
  by_cases hshort : buffer.length < size.toNat
  · exact .inl ⟨hshort, if_pos hshort⟩
  · refine .inr ⟨_, _, (List.take_append_drop size.toNat buffer).symm, ?_, if_neg hshort⟩
    rw [List.length_take]
    omega

/-- A rule with a header waits for the header or for the frame it declares,
refuses the header, or has the whole frame. -/
theorem cutHeaded_cases (rule : Framing α) (header : UInt64)
    (bodyLength : Bytes → Except WireError UInt64)
    (decode : Bytes → Except WireError (α × Option (Framing α))) (buffer : Bytes) :
    ((buffer.length < header.toNat ∨ ∃ size, bodyLength (buffer.take header.toNat) = .ok size ∧
        buffer.length < (header + size).toNat) ∧
      cutHeaded rule header bodyLength decode buffer = ⟨.waiting, rule, buffer⟩) ∨
    (∃ e, bodyLength (buffer.take header.toNat) = .error e ∧
      cutHeaded rule header bodyLength decode buffer = ⟨.refused e, rule, buffer⟩) ∨
    ∃ size frame rest, bodyLength (buffer.take header.toNat) = .ok size ∧
      buffer = frame ++ rest ∧ frame.length = (header + size).toNat ∧
      cutHeaded rule header bodyLength decode buffer = ⟨ofDecoded (decode frame), rule, rest⟩ := by
  unfold cutHeaded
  by_cases hshort : buffer.length < header.toNat
  · exact .inl ⟨.inl hshort, if_pos hshort⟩
  · rw [if_neg hshort]
    cases bodyLength (buffer.take header.toNat) with
    | error e => exact .inr (.inl ⟨e, rfl, rfl⟩)
    | ok size =>
      obtain ⟨hless, hcut⟩ | ⟨frame, rest, hbuffer, hwhole, hcut⟩ :=
        cutFrame_cases rule (header + size) decode buffer
      · exact .inl ⟨.inr ⟨size, rfl, hless⟩, hcut⟩
      · exact .inr (.inr ⟨size, frame, rest, rfl, hbuffer, hwhole, hcut⟩)

/-- A rule that waits removes nothing. -/
theorem rest_cut_of_waiting {rule : Framing α} {buffer : Bytes}
    (h : (rule.cut buffer).answer = .waiting) : (rule.cut buffer).rest = buffer := by
  cases rule with
  | line limit searched make =>
    simp only [cut] at h ⊢
    obtain ⟨_, _, hcut⟩ | hcut | ⟨_, _, _, hcut⟩ := cutLine_cases limit searched make buffer
    · rw [hcut]
    · rw [hcut]
    · rw [hcut] at h
      cases h
  | fixed size decode =>
    simp only [cut] at h ⊢
    obtain ⟨_, hcut⟩ | ⟨frame, rest, _, _, hcut⟩ :=
      cutFrame_cases (.fixed size decode) size decode buffer
    · rw [hcut]
    · rw [hcut] at h
      exact absurd h (ofDecoded_ne_waiting _)
  | headed header bodyLength decode =>
    simp only [cut] at h ⊢
    obtain ⟨_, hcut⟩ | ⟨e, _, hcut⟩ | ⟨size, frame, rest, _, _, _, hcut⟩ :=
      cutHeaded_cases (.headed header bodyLength decode) header bodyLength decode buffer
    · rw [hcut]
    · rw [hcut]
    · rw [hcut] at h
      exact absurd h (ofDecoded_ne_waiting _)

end Framing

end ProxyTunnel
