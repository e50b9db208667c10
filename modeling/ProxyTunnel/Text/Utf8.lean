/-
UTF-8, written exactly and read with repair.

`encode` is the UTF-8 image of a text. `decodeLossy` reads any bytes at all:
a well-formed sequence is its character, and every ill-formed stretch becomes
one replacement character per maximal part that could still have begun a
character. So `E2 82` (a cut euro sign) is one replacement character, while
`ED A0 80` (a surrogate) is three, because no character begins `ED A0`.

The first byte decides how long a character is and how its second byte is
restricted (`lead`); the restriction is what rules out overlong forms,
surrogates and values past U+10FFFF. All later bytes range over `80..BF`.
-/
import ProxyTunnel.Bytes

set_option autoImplicit false

namespace ProxyTunnel.Utf8

/-! ## Writing -/

/-- The UTF-8 image of a text. -/
def encode (text : String) : Bytes :=
  text.toList.flatMap String.utf8EncodeChar

/-! ## Reading -/

/-- What the first byte of a character announces: how many bytes follow, the
bits it contributes, and the range of the byte after it. -/
structure Lead where
  following : Nat
  bits : Nat
  low : UInt8
  high : UInt8

/-- The announcement of a first byte, if it can begin a character at all. -/
def lead (b : UInt8) : Option Lead :=
  if b < 0x80 then some ⟨0, b.toNat, 0x80, 0xBF⟩
  else if b < 0xC2 then none
  else if b < 0xE0 then some ⟨1, b.toNat - 0xC0, 0x80, 0xBF⟩
  else if b = 0xE0 then some ⟨2, 0, 0xA0, 0xBF⟩
  else if b = 0xED then some ⟨2, 13, 0x80, 0x9F⟩
  else if b < 0xF0 then some ⟨2, b.toNat - 0xE0, 0x80, 0xBF⟩
  else if b = 0xF0 then some ⟨3, 0, 0x90, 0xBF⟩
  else if b < 0xF4 then some ⟨3, b.toNat - 0xF0, 0x80, 0xBF⟩
  else if b = 0xF4 then some ⟨3, 4, 0x80, 0x8F⟩
  else none

/-- Reads the bytes that follow a first byte, the next one within `low..high`
and the others within `80..BF`. Stops before the first byte that does not fit,
or at the end; then there is no value. -/
def follow : (count bits : Nat) → (low high : UInt8) → Bytes → Option Nat × Bytes
  | 0, bits, _, _, bytes => (some bits, bytes)
  | _ + 1, _, _, _, [] => (none, [])
  | count + 1, bits, low, high, b :: bytes =>
    if low ≤ b ∧ b ≤ high then follow count (bits * 64 + b.toNat % 64) 0x80 0xBF bytes
    else (none, b :: bytes)

theorem length_follow_le (count bits : Nat) (low high : UInt8) (bytes : Bytes) :
    (follow count bits low high bytes).2.length ≤ bytes.length := by
  induction count generalizing bits low high bytes with
  | zero => simp [follow]
  | succ count ih =>
    cases bytes with
    | nil => simp [follow]
    | cons b bytes =>
      simp only [follow]
      split
      · exact Nat.le_succ_of_le (ih ..)
      · exact Nat.le_refl _

/-- The character that stands for bytes that are none. -/
def replacement : Char := '\uFFFD'

/-- The first character of a non-empty byte string, repaired if need be, and
the bytes after it. -/
def readChar (b : UInt8) (bytes : Bytes) : Char × Bytes :=
  match lead b with
  | none => (replacement, bytes)
  | some l =>
    match follow l.following l.bits l.low l.high bytes with
    | (some value, rest) => (Char.ofNat value, rest)
    | (none, rest) => (replacement, rest)

theorem length_readChar_le (b : UInt8) (bytes : Bytes) :
    (readChar b bytes).2.length ≤ bytes.length := by
  unfold readChar
  split
  · exact Nat.le_refl _
  · rename_i l _
    have h := length_follow_le l.following l.bits l.low l.high bytes
    split <;> simp_all

/-- The characters of a byte string, ill-formed stretches repaired. -/
def decodeChars : Bytes → List Char
  | [] => []
  | b :: bytes => (readChar b bytes).1 :: decodeChars (readChar b bytes).2
termination_by bytes => bytes.length
decreasing_by
  have h := length_readChar_le b bytes
  simp only [List.length_cons]
  omega

/-- The text of a byte string, ill-formed stretches repaired. -/
def decodeLossy (bytes : Bytes) : String :=
  String.ofList (decodeChars bytes)

end ProxyTunnel.Utf8
