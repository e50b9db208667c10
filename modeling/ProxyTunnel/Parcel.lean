/-
Parcels: what a caller hands over to be written at one go.

There are four kinds: bytes as they are, one message, a batch of messages, and
whatever a callback puts into the buffer. All of them fill a scratch buffer,
which becomes the frame of the write only if nothing was refused. A batch that
is refused in the middle leaves no frame, whatever its first messages put into
the buffer.
-/
import ProxyTunnel.Wire.Item

set_option autoImplicit false

namespace ProxyTunnel

/-- How messages of a type are put into a buffer, or refused. -/
abbrev Encoder (M : Type) := M → Bytes → Except WireError Bytes

/-- What is to be written at one go. -/
inductive Parcel (M : Type) where
  | raw (data : Bytes)
  | message (m : M)
  | batch (ms : List M)
  | filled (fill : Bytes → Except WireError Bytes)

namespace Parcel

variable {M : Type}

/-- Puts a parcel into a buffer. -/
def fill (encode : Encoder M) : Parcel M → Bytes → Except WireError Bytes
  | raw data, buffer => .ok (buffer ++ data)
  | message m, buffer => encode m buffer
  | batch ms, buffer => ms.foldlM (fun buffer m => encode m buffer) buffer
  | filled fill, buffer => fill buffer

/-- The frame of a parcel. -/
def frame (encode : Encoder M) (p : Parcel M) : Except WireError Bytes := p.fill encode []

end Parcel

/-! ## Batches -/

/-- All parts are there, or there is no whole. -/
theorem concatParts_eq_ok {parts : List (Except WireError Bytes)} {bytes : Bytes} :
    concatParts parts = .ok bytes ↔
      ∃ pieces : List Bytes, parts = pieces.map .ok ∧ bytes = pieces.flatten := by
  induction parts generalizing bytes with
  | nil =>
    constructor
    · intro h
      cases h
      exact ⟨[], rfl, rfl⟩
    · rintro ⟨pieces, hp, rfl⟩
      rw [List.map_eq_nil_iff.1 hp.symm]
      rfl
  | cons part parts ih =>
    rcases part with e | first
    · constructor
      · rintro ⟨⟩
      · rintro ⟨_ | ⟨piece, pieces⟩, hp, _⟩ <;> cases hp
    · rcases hrest : concatParts parts with e | rest
      all_goals rw [concatParts, hrest]
      · constructor
        · rintro ⟨⟩
        · rintro ⟨_ | ⟨piece, pieces⟩, hp, _⟩
          · cases hp
          · have hok := ih.2 ⟨pieces, (List.cons.inj hp).2, rfl⟩
            rw [hrest] at hok
            cases hok
      · obtain ⟨others, rfl, rfl⟩ := ih.1 hrest
        constructor
        · intro h
          cases h
          exact ⟨first :: others, rfl, rfl⟩
        · rintro ⟨_ | ⟨piece, pieces⟩, hp, rfl⟩
          · cases hp
          · have hsame : others = pieces :=
              (List.map_inj_right fun _ _ h => Except.ok.inj h).1 (List.cons.inj hp).2
            cases (List.cons.inj hp).1
            rw [hsame]
            rfl

/-- An encoder that adds the code of a message behind what the buffer holds. -/
def Encoder.Appends {M : Type} (encode : Encoder M) (code : M → Except WireError Bytes) : Prop :=
  ∀ m buffer, encode m buffer = (code m).map (buffer ++ ·)

namespace Parcel

variable {M : Type} {encode : Encoder M} {code : M → Except WireError Bytes}

theorem fill_batch (h : encode.Appends code) (ms : List M) (buffer : Bytes) :
    (batch ms).fill encode buffer = (concatParts (ms.map code)).map (buffer ++ ·) := by
  induction ms generalizing buffer with
  | nil => exact (congrArg Except.ok (List.append_nil buffer)).symm
  | cons m ms ih =>
    change ((encode m buffer).bind fun next => (batch ms).fill encode next) = _
    rw [h m buffer, List.map_cons]
    rcases code m with e | first
    · rfl
    · change (batch ms).fill encode (buffer ++ first) = _
      rw [ih, concatParts]
      rcases concatParts (ms.map code) with e | rest
      · rfl
      · exact congrArg Except.ok (List.append_assoc buffer first rest)

/-- The frame of a batch is made of the codes of its messages, one after the
other. -/
theorem frame_batch (h : encode.Appends code) (ms : List M) :
    (batch ms).frame encode = concatParts (ms.map code) := by
  rw [frame, fill_batch h]
  rcases concatParts (ms.map code) with e | bytes <;> rfl

end Parcel

end ProxyTunnel
