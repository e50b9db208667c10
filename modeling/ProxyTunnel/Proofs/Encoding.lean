/-
UTF-8 is read back exactly.

Repair changes no text that was written as such: every character is read from its own
bytes and from no more (`Utf8.readChar_append`), so `Utf8.decodeLossy` undoes
`Utf8.encode`. The first byte announces how many follow and how the next one is
restricted; that a written character keeps to the restriction is what the surrogates and
the bounds of each length come to.
-/
import ProxyTunnel.Proofs.Decoding

set_option autoImplicit false

namespace ProxyTunnel.Utf8

/-! ## What a first byte announces -/

theorem lead_of_two {b : UInt8} (hlow : 194 ≤ b.toNat) (hhigh : b.toNat < 224) :
    lead b = some ⟨1, b.toNat - 192, 0x80, 0xBF⟩ := by
  rw [lead_eq, if_neg (by omega), if_neg (by omega), if_pos hhigh]

/-- A first byte of three, and where the second byte has to be. -/
theorem lead_of_three {b : UInt8} (hlow : 224 ≤ b.toNat) (hhigh : b.toNat < 240) :
    lead b = some ⟨2, b.toNat - 224, if b.toNat = 224 then 0xA0 else 0x80,
      if b.toNat = 237 then 0x9F else 0xBF⟩ := by
  rw [lead_eq, if_neg (by omega), if_neg (by omega), if_neg (by omega)]
  by_cases hfirst : b.toNat = 224
  · simp [hfirst]
  by_cases hsurrogates : b.toNat = 237
  · simp [hsurrogates]
  · simp [hfirst, hsurrogates, hhigh]

/-- A first byte of four, and where the second byte has to be. -/
theorem lead_of_four {b : UInt8} (hlow : 240 ≤ b.toNat) (hhigh : b.toNat < 245) :
    lead b = some ⟨3, b.toNat - 240, if b.toNat = 240 then 0x90 else 0x80,
      if b.toNat = 244 then 0x8F else 0xBF⟩ := by
  rw [lead_eq, if_neg (by omega), if_neg (by omega), if_neg (by omega), if_neg (by omega),
    if_neg (by omega), if_neg (by omega)]
  by_cases hfirst : b.toNat = 240
  · simp [hfirst]
  by_cases hlast : b.toNat = 244
  · simp [hlast]
  · have hbetween : b.toNat < 244 := by omega
    simp [hfirst, hlast, hbetween]

/-! ## Six bits at a time -/

theorem follow_sixBits {count bits n : Nat} {low high : UInt8} {bytes : Bytes}
    (hlow : low.toNat ≤ n % 64 + 128) (hhigh : n % 64 + 128 ≤ high.toNat) :
    follow (count + 1) bits low high (UInt8.ofNat (n % 64 + 128) :: bytes) =
      follow count (bits * 64 + n % 64) 0x80 0xBF bytes := by
  have hmod : n % 64 < 64 := Nat.mod_lt _ (by decide)
  have hbyte : (UInt8.ofNat (n % 64 + 128)).toNat = n % 64 + 128 := by
    rw [UInt8.toNat_ofNat']
    omega
  rw [follow, if_pos, hbyte]
  · congr 2
    omega
  · rw [UInt8.le_iff_toNat_le, UInt8.le_iff_toNat_le, hbyte]
    exact ⟨hlow, hhigh⟩

theorem readChar_of_lead {b : UInt8} {l : Lead} {value : Nat} {bytes rest : Bytes}
    (hlead : lead b = some l)
    (hfollow : follow l.following l.bits l.low l.high bytes = (some value, rest)) :
    readChar b bytes = (Char.ofNat value, rest) := by
  rw [readChar, hlead]
  simp only [hfollow]

/-! ## A character of each length -/

section

variable {n : Nat} (rest : Bytes)

theorem readChar_one (h : n ≤ 127) : readChar (UInt8.ofNat n) rest = (Char.ofNat n, rest) := by
  have hbyte : (UInt8.ofNat n).toNat = n := by
    rw [UInt8.toNat_ofNat']
    omega
  have hlt : UInt8.ofNat n < 0x80 := by
    rw [UInt8.lt_iff_toNat_lt, hbyte]
    exact Nat.lt_succ_of_le h
  rw [readChar_of_lt hlt, hbyte]

theorem readChar_two (hlow : 127 < n) (hhigh : n ≤ 2047) :
    readChar (UInt8.ofNat (n / 64 % 32 + 192)) (UInt8.ofNat (n % 64 + 128) :: rest) =
      (Char.ofNat n, rest) := by
  have hbyte : (UInt8.ofNat (n / 64 % 32 + 192)).toNat = n / 64 + 192 := by
    rw [UInt8.toNat_ofNat']
    omega
  have hlead := lead_of_two (b := UInt8.ofNat (n / 64 % 32 + 192)) (by omega) (by omega)
  rw [hbyte, Nat.add_sub_cancel] at hlead
  refine readChar_of_lead hlead ?_
  dsimp only
  rw [follow_sixBits (by simp) (by simp; omega), follow]
  congr 2
  omega

/-- Surrogates are no characters, and would begin as some characters do. -/
theorem readChar_three (hlow : 2047 < n) (hhigh : n ≤ 65535) (hvalid : n < 0xD800 ∨ 0xDFFF < n) :
    readChar (UInt8.ofNat (n / 4096 % 16 + 224))
        (UInt8.ofNat (n / 64 % 64 + 128) :: UInt8.ofNat (n % 64 + 128) :: rest) =
      (Char.ofNat n, rest) := by
  have hbyte : (UInt8.ofNat (n / 4096 % 16 + 224)).toNat = n / 4096 + 224 := by
    rw [UInt8.toNat_ofNat']
    omega
  have hlead := lead_of_three (b := UInt8.ofNat (n / 4096 % 16 + 224)) (by omega) (by omega)
  rw [hbyte, Nat.add_sub_cancel] at hlead
  refine readChar_of_lead hlead ?_
  dsimp only
  rw [follow_sixBits, follow_sixBits (by simp) (by simp; omega), follow]
  · congr 2
    omega
  · split
    · change 160 ≤ _
      omega
    · change 128 ≤ _
      omega
  · split
    · change _ ≤ 159
      omega
    · change _ ≤ 191
      omega

theorem readChar_four (hlow : 65535 < n) (hhigh : n < 0x110000) :
    readChar (UInt8.ofNat (n / 262144 % 8 + 240))
        (UInt8.ofNat (n / 4096 % 64 + 128) :: UInt8.ofNat (n / 64 % 64 + 128) ::
          UInt8.ofNat (n % 64 + 128) :: rest) =
      (Char.ofNat n, rest) := by
  have hbyte : (UInt8.ofNat (n / 262144 % 8 + 240)).toNat = n / 262144 + 240 := by
    rw [UInt8.toNat_ofNat']
    omega
  have hlead := lead_of_four (b := UInt8.ofNat (n / 262144 % 8 + 240)) (by omega) (by omega)
  rw [hbyte, Nat.add_sub_cancel] at hlead
  refine readChar_of_lead hlead ?_
  dsimp only
  rw [follow_sixBits, follow_sixBits (by simp) (by simp; omega),
    follow_sixBits (by simp) (by simp; omega), follow]
  · congr 2
    omega
  · split
    · change 144 ≤ _
      omega
    · change 128 ≤ _
      omega
  · split
    · change _ ≤ 143
      omega
    · change _ ≤ 191
      omega

end

/-! ## Texts -/

/-- The bytes of a character make one step of reading. -/
theorem decodeChars_of_readChar {b : UInt8} {more rest : Bytes} {c : Char}
    (h : readChar b (more ++ rest) = (c, rest)) :
    decodeChars (b :: more ++ rest) = c :: decodeChars rest := by
  rw [List.cons_append, decodeChars, h]

/-- **A character is read from its bytes**, whatever follows them. -/
theorem decodeChars_utf8EncodeChar (c : Char) (rest : Bytes) :
    decodeChars (String.utf8EncodeChar c ++ rest) = c :: decodeChars rest := by
  obtain ⟨n, hn⟩ : ∃ n, c.val.toNat = n := ⟨_, rfl⟩
  obtain rfl : Char.ofNat n = c := hn ▸ Char.ofNat_toNat c
  have hvalid : n < 0xD800 ∨ 0xDFFF < n ∧ n < 0x110000 := hn ▸ (Char.ofNat n).valid
  simp only [String.utf8EncodeChar, hn]
  by_cases h1 : n ≤ 127
  · rw [if_pos h1]
    exact decodeChars_of_readChar (readChar_one rest h1)
  rw [if_neg h1]
  by_cases h2 : n ≤ 2047
  · rw [if_pos h2]
    exact decodeChars_of_readChar (readChar_two rest (by omega) h2)
  rw [if_neg h2]
  by_cases h3 : n ≤ 65535
  · rw [if_pos h3]
    exact decodeChars_of_readChar (readChar_three rest (by omega) h3 (by omega))
  · rw [if_neg h3]
    exact decodeChars_of_readChar (readChar_four rest (by omega) (by omega))

theorem decodeChars_encode (text : String) : decodeChars (encode text) = text.toList := by
  unfold encode
  induction text.toList with
  | nil => exact decodeChars_eq_nil.2 rfl
  | cons c chars ih => rw [List.flatMap_cons, decodeChars_utf8EncodeChar, ih]

/-- **A text is read back from its bytes.** -/
theorem decodeLossy_encode (text : String) : decodeLossy (encode text) = text := by
  rw [decodeLossy, decodeChars_encode, String.ofList_toList]

end ProxyTunnel.Utf8
