/-
Byte strings and the numbers written in them.

Everything that crosses a socket is a `Bytes`. A number of a known width is
written in base 256; `BigEndian.ofNat` puts the most significant byte first and
`BigEndian.toNat` reads it back. Reading inverts writing modulo the number of
values that the width holds (`BigEndian.toNat_ofNat`), so a number that fits its
width survives exactly.
-/

set_option autoImplicit false

namespace ProxyTunnel

/-- A string of bytes. -/
abbrev Bytes := List UInt8

namespace BigEndian

/-! ## Base 256, most significant byte first -/

/-- How many values `width` bytes hold. -/
def capacity : (width : Nat) → Nat
  | 0 => 1
  | width + 1 => 256 * capacity width

/-- The `width` low bytes of a number, most significant first. -/
def ofNat : (width : Nat) → Nat → Bytes
  | 0, _ => []
  | width + 1, n => ofNat width (n / 256) ++ [UInt8.ofNat n]

/-- The number whose base-256 digits are the given bytes. -/
def toNat (bytes : Bytes) : Nat :=
  bytes.foldl (fun n b => n * 256 + b.toNat) 0

@[simp] theorem length_ofNat (width n : Nat) : (ofNat width n).length = width := by
  induction width generalizing n with
  | zero => rfl
  | succ width ih => simp [ofNat, ih]

@[simp] theorem toNat_nil : toNat [] = 0 := rfl

theorem toNat_concat (bytes : Bytes) (b : UInt8) :
    toNat (bytes ++ [b]) = toNat bytes * 256 + b.toNat := by
  simp [toNat]

/-- Reading inverts writing, up to what the width cannot hold. -/
theorem toNat_ofNat (width n : Nat) : toNat (ofNat width n) = n % capacity width := by
  induction width generalizing n with
  | zero => simp [ofNat, capacity, Nat.mod_one]
  | succ width ih =>
    rw [ofNat, toNat_concat, ih, capacity, Nat.mod_mul, UInt8.toNat_ofNat']
    omega

/-- Two bytes hold sixteen bits. -/
theorem ofNat_toNat_pair (n : UInt16) : UInt16.ofNat (toNat (ofNat 2 n.toNat)) = n := by
  have hlt := n.toNat_lt
  have hfits : n.toNat % capacity 2 = n.toNat := by
    apply Nat.mod_eq_of_lt
    simpa [capacity] using hlt
  rw [toNat_ofNat, hfits, UInt16.ofNat_toNat]

end BigEndian

end ProxyTunnel
