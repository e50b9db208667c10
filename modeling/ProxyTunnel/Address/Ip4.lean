/-
IPv4 addresses: four octets, written in decimal with dots between them.

An octet is read from one to three digits, has no leading zero unless it is
zero itself, and is at most 255. So every address has one written form.
-/
import ProxyTunnel.Text.Decimal
import ProxyTunnel.Bytes

set_option autoImplicit false

namespace ProxyTunnel

/-- An IPv4 address. -/
structure Ip4 where
  a : UInt8
  b : UInt8
  c : UInt8
  d : UInt8
  deriving DecidableEq

namespace Ip4

/-- The octets in network order. -/
def octets (ip : Ip4) : Bytes := [ip.a, ip.b, ip.c, ip.d]

/-- The address with the given octets. -/
def ofOctets? : Bytes → Option Ip4
  | [a, b, c, d] => some ⟨a, b, c, d⟩
  | _ => none

/-! ## Writing -/

/-- The numeral of an octet. -/
def writeOctet (octet : UInt8) : List Char := Decimal.write octet.toNat

/-- The characters of the dotted form. -/
def write (ip : Ip4) : List Char :=
  writeOctet ip.a ++ '.' :: writeOctet ip.b ++ '.' :: writeOctet ip.c ++ '.' :: writeOctet ip.d

/-- The dotted form. -/
def text (ip : Ip4) : String := String.ofList ip.write

/-! ## Reading -/

/-- The octet a text begins with, and the text after it. -/
def readOctet (text : List Char) : Option (UInt8 × List Char) :=
  let digits := text.takeWhile Char.isDigit
  let rest := text.dropWhile Char.isDigit
  if 3 < digits.length ∨ (digits.head? = some '0' ∧ 1 < digits.length) then none
  else (Decimal.read? 255 digits).map fun n => (UInt8.ofNat n, rest)

/-- The octet after a dot, and the text after it. -/
def readDottedOctet : List Char → Option (UInt8 × List Char)
  | '.' :: text => readOctet text
  | _ => none

/-- The address a text begins with, and the text after it. -/
def read (text : List Char) : Option (Ip4 × List Char) := do
  let (a, text) ← readOctet text
  let (b, text) ← readDottedOctet text
  let (c, text) ← readDottedOctet text
  let (d, text) ← readDottedOctet text
  return (⟨a, b, c, d⟩, text)

end Ip4

end ProxyTunnel
