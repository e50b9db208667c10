/-
How text becomes bytes: UTF-8 exactly, or ASCII with a question mark for each
character that ASCII lacks.

The ASCII image has one byte per character, so it loses text outside ASCII and
keeps its length in characters (`length_encode_ascii`).
-/
import ProxyTunnel.Text.Utf8

set_option autoImplicit false

namespace ProxyTunnel

/-- An encoding of text. -/
inductive Charset where
  | ascii
  | utf8
  deriving DecidableEq

namespace Charset

/-- The encoding where nobody asks for another. -/
def preferred : Charset := ascii

/-- The byte that stands for a character in ASCII. -/
def asciiByte (c : Char) : UInt8 :=
  if c.toNat < 0x80 then UInt8.ofNat c.toNat else 0x3F

/-- The bytes of a text. -/
def encode : Charset → String → Bytes
  | ascii, text => text.toList.map asciiByte
  | utf8, text => Utf8.encode text

/-- ASCII takes one byte for each character. -/
@[simp] theorem length_encode_ascii (text : String) :
    (encode ascii text).length = text.length := by
  simp [encode, String.length_toList]

/-- A text has no more characters than bytes. -/
theorem length_le_length_encode (charset : Charset) (text : String) :
    text.length ≤ (charset.encode text).length := by
  cases charset with
  | ascii => exact Nat.le_of_eq (length_encode_ascii text).symm
  | utf8 =>
    rw [← String.length_toList, encode, Utf8.encode]
    induction text.toList with
    | nil => exact Nat.zero_le _
    | cons c chars ih =>
      have hpos := Char.utf8Size_pos c
      rw [List.flatMap_cons, List.length_append, String.length_utf8EncodeChar, List.length_cons]
      omega

/-- The name of an encoding. -/
def name : Charset → String
  | ascii => "Ascii"
  | utf8 => "Utf8"

end Charset

end ProxyTunnel
