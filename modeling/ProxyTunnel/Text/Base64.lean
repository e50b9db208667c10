/-
Base64 with the standard alphabet and padding.

Three bytes are four characters of six bits each. One byte left over is two
characters and two padding signs, two bytes left over are three characters and
one sign. Bits that no byte fills are zero.

Reading inverts writing (`decode?_encode`), so a text tells exactly which bytes
it stands for.
-/
import ProxyTunnel.Bytes

set_option autoImplicit false

namespace ProxyTunnel.Base64

/-! ## The alphabet -/

/-- The character for six bits. -/
def symbol (bits : Nat) : Char :=
  if bits < 26 then Char.ofNat (bits + 'A'.toNat)
  else if bits < 52 then Char.ofNat (bits - 26 + 'a'.toNat)
  else if bits < 62 then Char.ofNat (bits - 52 + '0'.toNat)
  else if bits = 62 then '+'
  else '/'

/-- All symbols, in the order of what they stand for. -/
def alphabet : List Char :=
  "ABCDEFGHIJKLMNOPQRSTUVWXYZabcdefghijklmnopqrstuvwxyz0123456789+/".toList

theorem getElem?_alphabet : ∀ n < 64, alphabet[n]? = some (symbol n) := by decide

/-- The padding sign. -/
def padding : Char := '='

/-- The six bits that a character stands for. -/
def bits? (c : Char) : Option Nat :=
  if c.isUpper then some (c.toNat - 'A'.toNat)
  else if c.isLower then some (c.toNat - 'a'.toNat + 26)
  else if c.isDigit then some (c.toNat - '0'.toNat + 52)
  else if c = '+' then some 62
  else if c = '/' then some 63
  else none

theorem bits?_symbol : ∀ n < 64, bits? (symbol n) = some n := by decide

theorem symbol_ne_padding : ∀ n < 64, symbol n ≠ padding := by decide

/-! ## Writing -/

/-- The Base64 text of a byte string. -/
def encode : Bytes → List Char
  | [] => []
  | [a] => [symbol (a.toNat / 4), symbol (a.toNat % 4 * 16), padding, padding]
  | [a, b] =>
    [symbol (a.toNat / 4), symbol (a.toNat % 4 * 16 + b.toNat / 16),
      symbol (b.toNat % 16 * 4), padding]
  | a :: b :: c :: rest =>
    symbol (a.toNat / 4) :: symbol (a.toNat % 4 * 16 + b.toNat / 16) ::
      symbol (b.toNat % 16 * 4 + c.toNat / 64) :: symbol (c.toNat % 64) :: encode rest

/-- Four characters for every three bytes that were begun. -/
@[simp] theorem length_encode (bytes : Bytes) :
    (encode bytes).length = 4 * ((bytes.length + 2) / 3) := by
  fun_induction encode bytes with
  | case1 | case2 | case3 => simp
  | case4 a b c rest ih =>
    simp only [List.length_cons, ih]
    omega

/-- Symbols of six bits each, and behind them the signs that make up the last group of
four. -/
theorem encode_eq (bytes : Bytes) : ∃ sextets : List Nat, (∀ n ∈ sextets, n < 64) ∧
    encode bytes =
      sextets.map symbol ++ List.replicate ((3 - bytes.length % 3) % 3) padding := by
  fun_induction encode bytes with
  | case1 => exact ⟨[], by simp, rfl⟩
  | case2 a =>
    have ha := a.toNat_lt
    refine ⟨[a.toNat / 4, a.toNat % 4 * 16], ?_, rfl⟩
    simp only [List.forall_mem_cons, List.not_mem_nil, false_implies, implies_true, and_true]
    omega
  | case3 a b =>
    have ha := a.toNat_lt
    have hb := b.toNat_lt
    refine ⟨[a.toNat / 4, a.toNat % 4 * 16 + b.toNat / 16, b.toNat % 16 * 4], ?_, rfl⟩
    simp only [List.forall_mem_cons, List.not_mem_nil, false_implies, implies_true, and_true]
    omega
  | case4 a b c rest ih =>
    have ha := a.toNat_lt
    have hb := b.toNat_lt
    have hc := c.toNat_lt
    obtain ⟨sextets, hbits, hrest⟩ := ih
    have hlength : (a :: b :: c :: rest).length % 3 = rest.length % 3 := by
      simp only [List.length_cons]
      omega
    refine ⟨a.toNat / 4 :: (a.toNat % 4 * 16 + b.toNat / 16) ::
      (b.toNat % 16 * 4 + c.toNat / 64) :: c.toNat % 64 :: sextets, ?_, ?_⟩
    · simp only [List.forall_mem_cons]
      exact ⟨by omega, by omega, by omega, by omega, hbits⟩
    · rw [hlength, hrest]
      simp only [List.map_cons, List.cons_append]

/-! ## Reading -/

/-- The first byte of four characters. -/
def firstByte (p q : Nat) : UInt8 := UInt8.ofNat (p * 4 + q / 16)

/-- The second byte of four characters. -/
def secondByte (q r : Nat) : UInt8 := UInt8.ofNat (q % 16 * 16 + r / 4)

/-- The third byte of four characters. -/
def thirdByte (r s : Nat) : UInt8 := UInt8.ofNat (r % 4 * 64 + s)

/-- The bytes of four characters; padding may take the place of the last one or
the last two. -/
def readGroup (p q r s : Char) : Option Bytes := do
  let p ← bits? p
  let q ← bits? q
  if r = padding then
    if s = padding then some [firstByte p q] else none
  else
    let r ← bits? r
    if s = padding then some [firstByte p q, secondByte q r]
    else
      let s ← bits? s
      some [firstByte p q, secondByte q r, thirdByte r s]

/-- The byte string of a Base64 text. -/
def decode? : List Char → Option Bytes
  | [] => some []
  | p :: q :: r :: s :: rest => do
    let group ← readGroup p q r s
    if group.length < 3 ∧ rest ≠ [] then none
    else
      let bytes ← decode? rest
      some (group ++ bytes)
  | _ => none

theorem firstByte_split (a : UInt8) {t : Nat} (h : t < 16) :
    firstByte (a.toNat / 4) (a.toNat % 4 * 16 + t) = a := by
  have e : a.toNat / 4 * 4 + (a.toNat % 4 * 16 + t) / 16 = a.toNat := by omega
  rw [firstByte, e, UInt8.ofNat_toNat]

theorem secondByte_split (b : UInt8) (n : Nat) {t : Nat} (h : t < 4) :
    secondByte (n * 16 + b.toNat / 16) (b.toNat % 16 * 4 + t) = b := by
  have hb := b.toNat_lt
  have e : (n * 16 + b.toNat / 16) % 16 * 16 + (b.toNat % 16 * 4 + t) / 4 = b.toNat := by omega
  rw [secondByte, e, UInt8.ofNat_toNat]

theorem thirdByte_split (c : UInt8) (n : Nat) :
    thirdByte (n * 4 + c.toNat / 64) (c.toNat % 64) = c := by
  have hc := c.toNat_lt
  have e : (n * 4 + c.toNat / 64) % 4 * 64 + c.toNat % 64 = c.toNat := by omega
  rw [thirdByte, e, UInt8.ofNat_toNat]

theorem readGroup_one {p q : Nat} (hp : p < 64) (hq : q < 64) :
    readGroup (symbol p) (symbol q) padding padding = some [firstByte p q] := by
  simp [readGroup, bits?_symbol p hp, bits?_symbol q hq]

theorem readGroup_two {p q r : Nat} (hp : p < 64) (hq : q < 64) (hr : r < 64) :
    readGroup (symbol p) (symbol q) (symbol r) padding =
      some [firstByte p q, secondByte q r] := by
  simp [readGroup, bits?_symbol p hp, bits?_symbol q hq, bits?_symbol r hr,
    symbol_ne_padding r hr]

theorem readGroup_three {p q r s : Nat} (hp : p < 64) (hq : q < 64) (hr : r < 64)
    (hs : s < 64) :
    readGroup (symbol p) (symbol q) (symbol r) (symbol s) =
      some [firstByte p q, secondByte q r, thirdByte r s] := by
  simp [readGroup, bits?_symbol p hp, bits?_symbol q hq, bits?_symbol r hr,
    bits?_symbol s hs, symbol_ne_padding r hr, symbol_ne_padding s hs]

theorem decode?_encode (bytes : Bytes) : decode? (encode bytes) = some bytes := by
  fun_induction encode bytes with
  | case1 => rfl
  | case2 a =>
    have ha := a.toNat_lt
    have first := firstByte_split a (show 0 < 16 by omega)
    rw [Nat.add_zero] at first
    rw [decode?, readGroup_one (by omega) (by omega), first]
    simp [decode?]
  | case3 a b =>
    have ha := a.toNat_lt
    have hb := b.toNat_lt
    have second := secondByte_split b (a.toNat % 4) (show 0 < 4 by omega)
    rw [Nat.add_zero] at second
    rw [decode?, readGroup_two (by omega) (by omega) (by omega),
      firstByte_split a (by omega), second]
    simp [decode?]
  | case4 a b c rest ih =>
    have ha := a.toNat_lt
    have hb := b.toNat_lt
    have hc := c.toNat_lt
    rw [decode?, readGroup_three (by omega) (by omega) (by omega) (by omega),
      firstByte_split a (by omega), secondByte_split b _ (by omega), thirdByte_split, ih]
    simp

end ProxyTunnel.Base64
