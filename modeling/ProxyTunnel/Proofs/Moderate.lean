/-
Streams whose frames are within a limit.

A rule that waits for more than a limit allows is refused, so it matters how long
the frames of a stream are before all of it has arrived. `Framing.extent` tells
that of the first frame from the whole stream, and a stream is moderate if no frame
is longer than the limit and its incomplete rest is shorter (`Framing.Moderate`).
Whatever part of such a stream a rule has seen while it waits, it is shorter than
the frame it waits for (`Framing.length_lt_extent`).
-/
import ProxyTunnel.Proofs.Frames

set_option autoImplicit false

namespace ProxyTunnel.Framing

variable {α : Type}

/-! ## How long a frame is -/

/-- How long the frame is that a stream begins with, if all of it is there. -/
def extent : Framing α → Bytes → Option Nat
  | line _ _ _, stream => (findTerminator stream).map (· + 2)
  | fixed size _, stream => if stream.length < size.toNat then none else some size.toNat
  | headed header bodyLength _, stream =>
    if stream.length < header.toNat then none
    else match bodyLength (stream.take header.toNat) with
      | .error _ => none
      | .ok body =>
        if stream.length < header.toNat + body.toNat then none
        else some (header.toNat + body.toNat)

/-- **A rule that waits has not seen all of a frame.** -/
theorem length_lt_extent {rule : Framing α} (hnew : rule.restart = rule) {buffer more : Bytes}
    (hwaits : (rule.cut buffer).answer = .waiting) {size : Nat}
    (hextent : rule.extent (buffer ++ more) = some size) : buffer.length < size := by
  cases rule with
  | line limit searched make =>
    cases hnew
    simp only [cut, cutLine, findTerminatorFrom_zero] at hwaits
    obtain ⟨position, hfound, rfl⟩ := Option.map_eq_some_iff.1 hextent
    cases hnone : findTerminator buffer with
    | none =>
      have hbehind := length_le_of_findTerminator_append hnone hfound
      omega
    | some position =>
      rw [hnone] at hwaits
      dsimp only at hwaits
      split at hwaits <;> cases hwaits
  | fixed size decode =>
    simp only [cut] at hwaits
    obtain ⟨hshort, _⟩ | ⟨frame, rest, _, _, hcut⟩ :=
      cutFrame_cases (.fixed size decode) size decode buffer
    · simp only [extent] at hextent
      split at hextent <;> cases hextent
      exact hshort
    · rw [hcut] at hwaits
      exact absurd hwaits (ofDecoded_ne_waiting _)
  | headed header bodyLength decode =>
    simp only [cut] at hwaits
    -- all that is declared is at least as long as the header
    have hlong : ∀ body, bodyLength ((buffer ++ more).take header.toNat) = .ok body →
        size = header.toNat + body.toNat := by
      intro body hbody
      simp only [extent, hbody] at hextent
      split at hextent
      · cases hextent
      · split at hextent <;> cases hextent
        rfl
    obtain ⟨body, hbody⟩ : ∃ body, bodyLength ((buffer ++ more).take header.toNat) = .ok body := by
      cases hb : bodyLength ((buffer ++ more).take header.toNat) with
      | ok body => exact ⟨body, rfl⟩
      | error e =>
        simp only [extent, hb] at hextent
        split at hextent <;> cases hextent
    rw [hlong body hbody]
    by_cases hheader : buffer.length < header.toNat
    · omega
    rw [List.take_append_of_le_length (by omega)] at hbody
    obtain ⟨hless | ⟨size', hbody', hless⟩, _⟩ | ⟨e, hbody', hcut⟩ |
      ⟨_, frame, rest, _, _, _, hcut⟩ :=
      cutHeaded_cases (.headed header bodyLength decode) header bodyLength decode buffer
    · omega
    · -- the sum of both lengths may wrap, which makes it smaller
      rw [hbody] at hbody'
      cases hbody'
      have hsum : (header + body).toNat ≤ header.toNat + body.toNat := by
        rw [UInt64.toNat_add]
        exact Nat.mod_le _ _
      omega
    · rw [hbody] at hbody'
      cases hbody'
    · rw [hcut] at hwaits
      exact absurd hwaits (ofDecoded_ne_waiting _)

/-- **A frame of which all is there is cut off**, unless it is refused. -/
theorem cut_of_extent {rule : Framing α} (hnew : rule.restart = rule) {stream : Bytes} {size : Nat}
    (hsize : stream.length < UInt64.size) (hextent : rule.extent stream = some size) :
    (∃ content next, (rule.cut stream).answer = .package content next ∧
      (rule.cut stream).rest = stream.drop size) ∨ ∃ e, (rule.cut stream).answer = .refused e := by
  have hdecoded : ∀ decoded : Except WireError (α × Option (Framing α)),
      (∃ content next, ofDecoded decoded = .package content next) ∨
        ∃ e, ofDecoded decoded = .refused e := by
    rintro (e | ⟨content, next⟩)
    · exact .inr ⟨e, rfl⟩
    · exact .inl ⟨content, next, rfl⟩
  cases rule with
  | line limit searched make =>
    cases hnew
    obtain ⟨position, hfound, rfl⟩ := Option.map_eq_some_iff.1 hextent
    simp only [cut, cutLine, findTerminatorFrom_zero, hfound]
    by_cases hlong : limit.toNat < position
    · rw [if_pos hlong]
      exact .inr ⟨_, rfl⟩
    · rw [if_neg hlong]
      exact .inl ⟨_, _, rfl, rfl⟩
  | fixed size decode =>
    simp only [extent] at hextent
    by_cases hshort : stream.length < size.toNat
    · rw [if_pos hshort] at hextent
      cases hextent
    rw [if_neg hshort] at hextent
    cases hextent
    simp only [cut, cutFrame]
    rw [if_neg hshort]
    obtain ⟨content, next, h⟩ | h := hdecoded (decode (stream.take size.toNat))
    · exact .inl ⟨content, next, h, rfl⟩
    · exact .inr h
  | headed header bodyLength decode =>
    simp only [extent] at hextent
    simp only [cut, cutHeaded]
    by_cases hshort : stream.length < header.toNat
    · rw [if_pos hshort] at hextent
      cases hextent
    rw [if_neg hshort] at hextent ⊢
    cases hbody : bodyLength (stream.take header.toNat) with
    | error e => exact .inr ⟨e, rfl⟩
    | ok body =>
      simp only [hbody] at hextent
      by_cases hless : stream.length < header.toNat + body.toNat
      · rw [if_pos hless] at hextent
        cases hextent
      rw [if_neg hless] at hextent
      cases hextent
      -- a sum that is there does not wrap
      have hsum : (header + body).toNat = header.toNat + body.toNat :=
        toNat_add_of_lt (Nat.lt_of_le_of_lt (Nat.le_of_not_lt hless) hsize)
      simp only [cutFrame]
      rw [hsum, if_neg hless]
      obtain ⟨content, next, h⟩ | h := hdecoded (decode (stream.take (header.toNat + body.toNat)))
      · exact .inl ⟨content, next, h, rfl⟩
      · exact .inr h

/-! ## Moderate streams -/

/-- The first frames of a stream, as many as given, are no longer than `most`, and
what is left behind a whole frame in the end is shorter. Every rule that comes
with a package is new. -/
def ModerateFor (most : Nat) : Nat → Framing α → Bytes → Prop
  | 0, _, _ => True
  | n + 1, rule, stream =>
    stream.length < most ∨ ∃ size, rule.extent stream = some size ∧ size ≤ most ∧
      ∀ content next, (rule.cut stream).answer = .package content next →
        (∀ r, next = some r → r.restart = r) ∧
          ModerateFor most n (next.getD rule) (rule.cut stream).rest

/-- All whole frames of a stream are no longer than `most`, and its incomplete rest
is shorter. -/
structure Moderate (most : Nat) (rule : Framing α) (stream : Bytes) : Prop where
  new : rule.restart = rule
  frames : ∀ n, ModerateFor most n rule stream

/-- Behind the first frame of a moderate stream, a moderate stream begins. -/
theorem Moderate.step {most : Nat} {rule : Framing α} {stream : Bytes}
    (h : Moderate most rule stream) : stream.length < most ∨
      (∃ size, rule.extent stream = some size ∧ size ≤ most) ∧
        ∀ content next, (rule.cut stream).answer = .package content next →
          Moderate most (next.getD rule) (rule.cut stream).rest ∧
            ∀ r, next = some r → r.restart = r := by
  by_cases hshort : stream.length < most
  · exact .inl hshort
  have hfirst : ∀ n, ∃ size, rule.extent stream = some size ∧ size ≤ most ∧
      ∀ content next, (rule.cut stream).answer = .package content next →
        (∀ r, next = some r → r.restart = r) ∧
          ModerateFor most n (next.getD rule) (rule.cut stream).rest :=
    fun n => (h.frames (n + 1)).resolve_left hshort
  obtain ⟨size, hextent, hsize, hnext⟩ := hfirst 0
  refine .inr ⟨⟨size, hextent, hsize⟩, fun content next hcut => ?_⟩
  have hnew := (hnext content next hcut).1
  refine ⟨⟨?_, fun n => ?_⟩, hnew⟩
  · cases next with
    | none => exact h.new
    | some r => exact hnew r rfl
  · obtain ⟨_, _, _, hlater⟩ := hfirst n
    exact (hlater content next hcut).2

/-- Frames of one size within the limit make every stream moderate. -/
theorem moderate_fixed {most : Nat} {size : UInt64}
    {decode : Bytes → Except WireError (α × Option (Framing α))} (hsize : size.toNat ≤ most)
    (hsame : ∀ frame content next, decode frame = .ok (content, next) → next = none)
    (stream : Bytes) : Moderate most (.fixed size decode) stream := by
  refine ⟨rfl, fun n => ?_⟩
  induction n generalizing stream with
  | zero => trivial
  | succ n ih =>
    by_cases hshort : stream.length < size.toNat
    · exact .inl (Nat.lt_of_lt_of_le hshort hsize)
    · refine .inr ⟨size.toNat, if_neg hshort, hsize, fun content next hcut => ?_⟩
      rw [cut, cutFrame, if_neg hshort] at hcut
      cases hsame _ _ _ (ofDecoded_eq_package hcut)
      refine ⟨fun r hr => ?_, ih _⟩
      cases hr

/-! ## Packages in front of a stream -/

/-- A package stays as it is when more bytes follow, whatever the sizes. -/
theorem cut_append_of_package {rule after : Framing α} (hnew : rule.restart = rule)
    {buffer rest : Bytes} {content : α} {next : Option (Framing α)}
    (h : rule.cut buffer = ⟨.package content next, after, rest⟩) (more : Bytes) :
    rule.cut (buffer ++ more) = ⟨.package content next, after, rest ++ more⟩ := by
  have hcuts : (rule.cut buffer).answer ≠ .waiting := by
    rw [h]
    exact nofun
  have hsame : rule.cut (buffer ++ more) =
      { rule.cut buffer with rest := (rule.cut buffer).rest ++ more } := by
    cases rule with
    | line limit searched make =>
      cases hnew
      cases hfound : findTerminator buffer with
      | some position => exact cutLine_append hfound more
      | none =>
        -- without a terminator there is no package
        simp only [cut, cutLine, findTerminatorFrom_zero, hfound] at h
        split at h <;> cases h
    | fixed => exact cutFrame_append hcuts more
    | headed => exact cutHeaded_append hcuts more
  rw [hsame, h]

/-- A buffer begins with the frames of these packages; the rule and the bytes behind
them. -/
inductive Cuts : Framing α → Bytes → List α → Framing α → Bytes → Prop
  | done (rule : Framing α) (buffer : Bytes) : Cuts rule buffer [] rule buffer
  | cut {rule after last : Framing α} {buffer rest left : Bytes} {content : α}
      {next : Option (Framing α)} {contents : List α}
      (first : rule.cut buffer = ⟨.package content next, after, rest⟩)
      (others : Cuts (next.getD after) rest contents last left) :
      Cuts rule buffer (content :: contents) last left

end ProxyTunnel.Framing
