/-
ASCII survives repair.

Text that is decoded with repair may differ from its bytes in many ways, but
not where it is ASCII: an ASCII character of the text is an ASCII byte, an ASCII
byte is an ASCII character, and both keep their order. A character of more than
one byte never takes an ASCII byte in, because it ends before the first byte
that does not belong to it, and it is never an ASCII character itself, because
overlong forms are refused (`Utf8.readChar_of_not_lt`).

So a search for ASCII in the text is a search for ASCII in its bytes.
-/
import Mathlib.Tactic.Ring
import ProxyTunnel.Text.Utf8

set_option autoImplicit false

namespace ProxyTunnel.Utf8

/-! ## What a character is made of -/

theorem toNat_ofNat_of_isValidChar {n : Nat} (h : n.isValidChar) : (Char.ofNat n).toNat = n := by
  rw [Char.ofNat, dif_pos h]
  rfl

theorem readChar_of_lt {b : UInt8} (h : b < 0x80) (bytes : Bytes) :
    readChar b bytes = (Char.ofNat b.toNat, bytes) := by
  unfold readChar lead
  rw [if_pos h]
  rfl

theorem decodeChars_of_lt {b : UInt8} (h : b < 0x80) (bytes : Bytes) :
    decodeChars (b :: bytes) = Char.ofNat b.toNat :: decodeChars bytes := by
  rw [decodeChars, readChar_of_lt h]

/-- The bytes behind a first byte that belong to its character are no ASCII. -/
theorem follow_split {count bits : Nat} {low high : UInt8} (hlow : 0x80 ≤ low) (bytes : Bytes) :
    ∃ taken, bytes = taken ++ (follow count bits low high bytes).2 ∧ ∀ x ∈ taken, 0x80 ≤ x := by
  induction count generalizing bits low high bytes with
  | zero => exact ⟨[], rfl, List.forall_mem_nil _⟩
  | succ count ih =>
    rcases bytes with _ | ⟨b, bytes⟩
    · exact ⟨[], rfl, List.forall_mem_nil _⟩
    unfold follow
    by_cases hb : low ≤ b ∧ b ≤ high
    · rw [if_pos hb]
      obtain ⟨taken, htaken, hall⟩ :=
        @ih (bits * 64 + b.toNat % 64) 0x80 0xBF (UInt8.le_refl 0x80) bytes
      refine ⟨b :: taken, congrArg (b :: ·) htaken, ?_⟩
      intro x hx
      rcases List.mem_cons.1 hx with rfl | hx
      · exact UInt8.le_trans hlow hb.1
      · exact hall x hx
    · rw [if_neg hb]
      exact ⟨[], rfl, List.forall_mem_nil _⟩

/-- Each byte that follows adds six bits below the others. -/
theorem follow_bounds {count bits value : Nat} {bytes rest : Bytes}
    (h : follow count bits 0x80 0xBF bytes = (some value, rest)) :
    bits * 64 ^ count ≤ value ∧ value < (bits + 1) * 64 ^ count := by
  induction count generalizing bits bytes with
  | zero =>
    cases h
    simp
  | succ count ih =>
    rcases bytes with _ | ⟨b, bytes⟩
    · cases h
    unfold follow at h
    by_cases hb : (0x80 : UInt8) ≤ b ∧ b ≤ 0xBF
    · rw [if_pos hb] at h
      obtain ⟨hle, hlt⟩ := ih h
      have hmod : b.toNat % 64 + 1 ≤ 64 := Nat.mod_lt _ (by decide)
      constructor
      · calc bits * 64 ^ (count + 1) = bits * 64 * 64 ^ count := by ring
          _ ≤ (bits * 64 + b.toNat % 64) * 64 ^ count := Nat.mul_le_mul_right _ (by omega)
          _ ≤ value := hle
      · calc value < (bits * 64 + b.toNat % 64 + 1) * 64 ^ count := hlt
          _ ≤ (bits + 1) * 64 * 64 ^ count := Nat.mul_le_mul_right _ (by omega)
          _ = (bits + 1) * 64 ^ (count + 1) := by ring
    · rw [if_neg hb] at h
      cases h

/-- As `follow_bounds`, with the first of the bytes restricted. -/
theorem follow_bounds_of_range {count bits value : Nat} {low high : UInt8} {bytes rest : Bytes}
    (hlow : 0x80 ≤ low) (hhigh : high ≤ 0xBF)
    (h : follow (count + 1) bits low high bytes = (some value, rest)) :
    (bits * 64 + (low.toNat - 128)) * 64 ^ count ≤ value ∧
      value < (bits * 64 + (high.toNat - 128) + 1) * 64 ^ count := by
  rcases bytes with _ | ⟨b, bytes⟩
  · cases h
  unfold follow at h
  by_cases hb : low ≤ b ∧ b ≤ high
  · rw [if_pos hb] at h
    obtain ⟨hle, hlt⟩ := follow_bounds h
    -- between these bounds six bits are what is above 128
    have h1 : low.toNat ≤ b.toNat := UInt8.le_iff_toNat_le.1 hb.1
    have h2 : b.toNat ≤ high.toNat := UInt8.le_iff_toNat_le.1 hb.2
    have h3 : 128 ≤ low.toNat := UInt8.le_iff_toNat_le.1 hlow
    have h4 : high.toNat ≤ 191 := UInt8.le_iff_toNat_le.1 hhigh
    have hmod : b.toNat % 64 = b.toNat - 128 := by omega
    rw [hmod] at hle hlt
    constructor
    · exact Nat.le_trans (Nat.mul_le_mul_right _ (by omega)) hle
    · exact Nat.lt_of_lt_of_le hlt (Nat.mul_le_mul_right _ (by omega))
  · rw [if_neg hb] at h
    cases h

/-- A value between these bounds is a scalar value outside ASCII. -/
def InScalars (low high : Nat) : Prop :=
  128 ≤ low ∧ (high ≤ 0xD800 ∨ 0xE000 ≤ low ∧ high ≤ 0x110000)

/-- Whatever follows a first byte that announces this makes a scalar value
outside ASCII. -/
def Lead.Sound (l : Lead) : Prop :=
  0x80 ≤ l.low ∧ ∀ value bytes rest,
    follow l.following l.bits l.low l.high bytes = (some value, rest) →
      128 ≤ value ∧ value.isValidChar

theorem sound_of_inScalars {count bits : Nat} {low high : UInt8} (hlow : 0x80 ≤ low)
    (hhigh : high ≤ 0xBF)
    (h : InScalars ((bits * 64 + (low.toNat - 128)) * 64 ^ count)
      ((bits * 64 + (high.toNat - 128) + 1) * 64 ^ count)) :
    (Lead.mk (count + 1) bits low high).Sound := by
  refine ⟨hlow, ?_⟩
  intro value bytes rest hv
  change follow (count + 1) bits low high bytes = _ at hv
  obtain ⟨hle, hlt⟩ := follow_bounds_of_range hlow hhigh hv
  obtain ⟨hascii, hscalar⟩ := h
  refine ⟨Nat.le_trans hascii hle, ?_⟩
  unfold Nat.isValidChar
  omega

/-- The announcement, by the number that a first byte is. -/
theorem lead_eq (b : UInt8) : lead b =
    if b.toNat < 128 then some ⟨0, b.toNat, 0x80, 0xBF⟩
    else if b.toNat < 194 then none
    else if b.toNat < 224 then some ⟨1, b.toNat - 192, 0x80, 0xBF⟩
    else if b.toNat = 224 then some ⟨2, 0, 0xA0, 0xBF⟩
    else if b.toNat = 237 then some ⟨2, 13, 0x80, 0x9F⟩
    else if b.toNat < 240 then some ⟨2, b.toNat - 224, 0x80, 0xBF⟩
    else if b.toNat = 240 then some ⟨3, 0, 0x90, 0xBF⟩
    else if b.toNat < 244 then some ⟨3, b.toNat - 240, 0x80, 0xBF⟩
    else if b.toNat = 244 then some ⟨3, 4, 0x80, 0x8F⟩
    else none := by
  unfold lead
  simp only [UInt8.lt_iff_toNat_lt, ← UInt8.toNat_inj]
  rfl

/-- A first byte outside ASCII announces nothing, or no ASCII. -/
theorem sound_of_lead {b : UInt8} (hb : ¬ b < 0x80) {l : Lead} (h : lead b = some l) :
    l.Sound := by
  have h80 : (0x80 : UInt8) ≤ 0x80 := UInt8.le_refl _
  have hBF : (0xBF : UInt8) ≤ 0xBF := UInt8.le_refl _
  have h128 : ¬ b.toNat < 128 := fun hlt => hb (UInt8.lt_iff_toNat_lt.2 hlt)
  rw [lead_eq, if_neg h128] at h
  -- one range of first bytes after the other; each fixes how many bytes follow,
  -- and where only a part of them is allowed, which
  by_cases h1 : b.toNat < 194
  · rw [if_pos h1] at h
    cases h
  rw [if_neg h1] at h
  by_cases h2 : b.toNat < 224
  · rw [if_pos h2] at h
    cases h
    refine sound_of_inScalars h80 hBF ⟨?_, .inl ?_⟩
    · change 128 ≤ ((b.toNat - 192) * 64 + (128 - 128)) * 64 ^ 0
      omega
    · change ((b.toNat - 192) * 64 + (191 - 128) + 1) * 64 ^ 0 ≤ 0xD800
      omega
  rw [if_neg h2] at h
  by_cases h3 : b.toNat = 224
  · rw [if_pos h3] at h
    cases h
    exact sound_of_inScalars (by decide) hBF ⟨by decide, .inl (by decide)⟩
  rw [if_neg h3] at h
  by_cases h4 : b.toNat = 237
  · rw [if_pos h4] at h
    cases h
    exact sound_of_inScalars h80 (by decide) ⟨by decide, .inl (by decide)⟩
  rw [if_neg h4] at h
  by_cases h5 : b.toNat < 240
  · rw [if_pos h5] at h
    cases h
    refine sound_of_inScalars h80 hBF ?_
    change InScalars (((b.toNat - 224) * 64 + (128 - 128)) * 64 ^ 1)
      (((b.toNat - 224) * 64 + (191 - 128) + 1) * 64 ^ 1)
    unfold InScalars
    omega
  rw [if_neg h5] at h
  by_cases h6 : b.toNat = 240
  · rw [if_pos h6] at h
    cases h
    exact sound_of_inScalars (by decide) hBF ⟨by decide, .inr (by decide)⟩
  rw [if_neg h6] at h
  by_cases h7 : b.toNat < 244
  · rw [if_pos h7] at h
    cases h
    refine sound_of_inScalars h80 hBF ?_
    change InScalars (((b.toNat - 240) * 64 + (128 - 128)) * 64 ^ 2)
      (((b.toNat - 240) * 64 + (191 - 128) + 1) * 64 ^ 2)
    unfold InScalars
    omega
  rw [if_neg h7] at h
  by_cases h8 : b.toNat = 244
  · rw [if_pos h8] at h
    cases h
    exact sound_of_inScalars h80 (by decide) ⟨by decide, .inr (by decide)⟩
  · rw [if_neg h8] at h
    cases h

/-- A character that begins outside ASCII is none of ASCII, and neither are the
bytes that belong to it. -/
theorem readChar_of_not_lt {b : UInt8} (hb : ¬ b < 0x80) (bytes : Bytes) :
    128 ≤ (readChar b bytes).1.toNat ∧
      ∃ taken, bytes = taken ++ (readChar b bytes).2 ∧ ∀ x ∈ taken, 0x80 ≤ x := by
  have hreplacement : 128 ≤ replacement.toNat := by decide
  unfold readChar
  rcases hlead : lead b with _ | l
  · exact ⟨hreplacement, [], rfl, List.forall_mem_nil _⟩
  dsimp only
  obtain ⟨hlow, hsound⟩ := sound_of_lead hb hlead
  have hsplit := @follow_split l.following l.bits l.low l.high hlow bytes
  rcases hf : follow l.following l.bits l.low l.high bytes with ⟨_ | value, rest⟩
  all_goals rw [hf] at hsplit; dsimp only at hsplit ⊢
  · exact ⟨hreplacement, hsplit⟩
  · obtain ⟨hle, hvalid⟩ := hsound value bytes rest hf
    refine ⟨?_, hsplit⟩
    rw [toNat_ofNat_of_isValidChar hvalid]
    exact hle

/-! ## Searching -/

theorem toNat_ofNat_of_lt {b : UInt8} (h : b < 0x80) : (Char.ofNat b.toNat).toNat = b.toNat := by
  have hlt : b.toNat < 128 := UInt8.lt_iff_toNat_lt.1 h
  exact toNat_ofNat_of_isValidChar (.inl (by omega))

/-- A text is empty only if it has no bytes. -/
theorem decodeChars_eq_nil {bytes : Bytes} : decodeChars bytes = [] ↔ bytes = [] := by
  constructor
  · intro h
    rcases bytes with _ | ⟨b, bytes⟩
    · rfl
    · rw [decodeChars] at h
      cases h
  · rintro rfl
    rw [decodeChars]

/-- **What stands before the first of an ASCII character in a text, stands before
the first of its byte.** -/
theorem dropWhile_decodeChars {a : UInt8} (ha : a < 0x80) (bytes : Bytes) :
    (decodeChars bytes).dropWhile (· ≠ Char.ofNat a.toNat) =
      decodeChars (bytes.dropWhile (· ≠ a)) := by
  fun_induction decodeChars bytes with
  | case1 => rw [List.dropWhile_nil, List.dropWhile_nil, decodeChars]
  | case2 b bytes ih =>
    by_cases hb : b < 0x80
    · rw [readChar_of_lt hb] at ih ⊢
      by_cases hab : b = a
      · rw [hab, List.dropWhile_cons_of_neg (by simp), List.dropWhile_cons_of_neg (by simp),
          decodeChars_of_lt ha]
      · have hne : Char.ofNat b.toNat ≠ Char.ofNat a.toNat := by
          intro h
          have hn := congrArg Char.toNat h
          rw [toNat_ofNat_of_lt hb, toNat_ofNat_of_lt ha] at hn
          exact hab (UInt8.toNat_inj.1 hn)
        rw [List.dropWhile_cons_of_pos (by simpa using hne),
          List.dropWhile_cons_of_pos (by simpa using hab)]
        exact ih
    · -- the bytes of this character are passed over as a whole on both sides
      obtain ⟨hle, taken, htaken, hall⟩ := readChar_of_not_lt hb bytes
      have halt : a.toNat < 128 := UInt8.lt_iff_toNat_lt.1 ha
      have hne : (readChar b bytes).1 ≠ Char.ofNat a.toNat := by
        intro h
        rw [h, toNat_ofNat_of_lt ha] at hle
        omega
      have hskip : ∀ x ∈ b :: taken, x ≠ a := by
        rintro x hx rfl
        rcases List.mem_cons.1 hx with rfl | hx
        · exact hb ha
        · have hge : 128 ≤ x.toNat := UInt8.le_iff_toNat_le.1 (hall x hx)
          omega
      rw [List.dropWhile_cons_of_pos (by simpa using hne), ih]
      have hbytes : b :: bytes = (b :: taken) ++ (readChar b bytes).2 := congrArg (b :: ·) htaken
      rw [hbytes, List.dropWhile_append_of_pos (by simpa using hskip)]

end ProxyTunnel.Utf8
