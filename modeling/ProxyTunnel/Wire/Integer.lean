/-
Integers of fixed width in either byte order.

A value is written modulo the number of values of its type, which is two's
complement for the signed types. `IntType.read` inverts `IntType.encode` on
every value that the type holds (`IntType.read_encode`): the type and the order
are known to both sides, nothing else is transmitted.
-/
import ProxyTunnel.Bytes

set_option autoImplicit false

namespace ProxyTunnel

/-- Which end of a number comes first. -/
inductive ByteOrder where
  | big
  | little
  deriving DecidableEq

/-- Puts bytes given most significant first into an order, or back again. -/
def ByteOrder.arrange : ByteOrder → Bytes → Bytes
  | big, bytes => bytes
  | little, bytes => bytes.reverse

/-- Putting bytes into an order twice changes nothing. -/
@[simp] theorem ByteOrder.arrange_arrange (order : ByteOrder) (bytes : Bytes) :
    order.arrange (order.arrange bytes) = bytes := by
  cases order <;> simp [arrange]

/-- The integer types of the wire. -/
inductive IntType where
  | u8 | i8 | u16 | i16 | u32 | i32 | u64 | i64
  deriving DecidableEq

namespace IntType

/-- How many bytes a value takes. -/
def width : IntType → Nat
  | u8 | i8 => 1
  | u16 | i16 => 2
  | u32 | i32 => 4
  | u64 | i64 => 8

/-- Whether the type has negative values. -/
def isSigned : IntType → Bool
  | i8 | i16 | i32 | i64 => true
  | u8 | u16 | u32 | u64 => false

/-- How many values the type has. -/
def size (t : IntType) : Nat := BigEndian.capacity t.width

/-- The least value. -/
def least (t : IntType) : Int := if t.isSigned then -(t.size / 2 : Nat) else 0

/-- Whether the type holds a value. -/
def Holds (t : IntType) (value : Int) : Prop :=
  t.least ≤ value ∧ value < t.least + t.size

instance (t : IntType) (value : Int) : Decidable (t.Holds value) :=
  inferInstanceAs (Decidable (_ ∧ _))

/-- The bytes of a value. -/
def encode (t : IntType) (order : ByteOrder) (value : Int) : Bytes :=
  order.arrange (BigEndian.ofNat t.width (value % t.size).toNat)

/-- The value of the type that a residue stands for. -/
def ofResidue (t : IntType) (residue : Nat) : Int :=
  if t.isSigned ∧ t.size / 2 ≤ residue then (residue : Int) - t.size else residue

/-- The value at the start of a byte string, and the bytes after it. -/
def read (t : IntType) (order : ByteOrder) (bytes : Bytes) : Option (Int × Bytes) :=
  if bytes.length < t.width then none
  else some (t.ofResidue (BigEndian.toNat (order.arrange (bytes.take t.width))),
    bytes.drop t.width)

@[simp] theorem length_encode (t : IntType) (order : ByteOrder) (value : Int) :
    (t.encode order value).length = t.width := by
  cases order <;> simp [encode, ByteOrder.arrange]

/-! ## Reading inverts writing -/

theorem ofResidue_emod {t : IntType} {value : Int} (h : t.Holds value) :
    t.ofResidue (value % t.size).toNat = value := by
  obtain ⟨hl, hu⟩ := h
  cases t <;> simp only [least, ofResidue, isSigned, size, width, BigEndian.capacity] at hl hu ⊢ <;> grind

/-- A value that the type holds is read back, whatever follows it. -/
theorem read_encode {t : IntType} {value : Int} (h : t.Holds value) (order : ByteOrder)
    (rest : Bytes) : t.read order (t.encode order value ++ rest) = some (value, rest) := by
  have hw := length_encode t order value
  have hs : (0 : Int) < t.size := by cases t <;> decide
  have hlt : (value % t.size).toNat < BigEndian.capacity t.width := by
    have h0 := Int.emod_nonneg value (Int.ne_of_gt hs)
    have h1 := Int.emod_lt_of_pos value hs
    change _ < t.size
    omega
  have hn : ¬ (t.encode order value ++ rest).length < t.width := by
    rw [List.length_append, hw]
    omega
  rw [read, if_neg hn, List.take_left' hw, List.drop_left' hw, encode,
    ByteOrder.arrange_arrange, BigEndian.toNat_ofNat, Nat.mod_eq_of_lt hlt, ofResidue_emod h]

end IntType

end ProxyTunnel
