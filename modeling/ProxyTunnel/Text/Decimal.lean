/-
Decimal numbers in text.

A numeral is a non-empty run of ASCII digits; leading zeros change nothing.
`read?` takes the whole text, and refuses a value above the given limit.
`readSigned?` also accepts one plus sign in front. `write` is the numeral
without leading zeros, and reads back (`read?_write`).
-/

set_option autoImplicit false

namespace ProxyTunnel.Decimal

/-- The number that digits spell. -/
def value (digits : List Char) : Nat := Nat.ofDigitChars 10 digits 0

/-- The numeral of a number. -/
def write (n : Nat) : List Char := Nat.toDigits 10 n

/-- The number a text of ASCII digits spells, if it is at most `limit`. -/
def read? (limit : Nat) (text : List Char) : Option Nat :=
  if text ≠ [] ∧ text.all Char.isDigit ∧ value text ≤ limit then some (value text) else none

/-- As `read?`, with one plus sign allowed in front. -/
def readSigned? (limit : Nat) : List Char → Option Nat
  | '+' :: text => read? limit text
  | text => read? limit text

/-- The code of a digit. -/
theorem toNat_of_isDigit {c : Char} (h : c.isDigit) : 48 ≤ c.toNat ∧ c.toNat ≤ 57 := by
  unfold Char.isDigit at h
  rw [Bool.and_eq_true, decide_eq_true_eq, decide_eq_true_eq] at h
  exact ⟨UInt32.le_iff_toNat_le.1 h.1, UInt32.le_iff_toNat_le.1 h.2⟩

/-! ## Reading what was written -/

theorem value_write (n : Nat) : value (write n) = n :=
  Nat.ofDigitChars_toDigits (by decide) (by decide)

theorem isDigit_of_mem_write {n : Nat} {c : Char} (h : c ∈ write n) : c.isDigit :=
  Nat.isDigit_of_mem_toDigits (by decide) (by decide) h

theorem colon_notMem_write (n : Nat) : ':' ∉ write n := by
  intro h
  exact absurd (isDigit_of_mem_write h) (by decide)

theorem write_ne_nil (n : Nat) : write n ≠ [] := by
  unfold write
  rw [Nat.toDigits_eq_if (by decide)]
  split <;> simp

theorem read?_write {limit n : Nat} (h : n ≤ limit) : read? limit (write n) = some n := by
  have hd : (write n).all Char.isDigit := List.all_eq_true.2 fun _ => isDigit_of_mem_write
  simp [read?, write_ne_nil, hd, value_write, h]

theorem read?_eq_some {limit n : Nat} {text : List Char} :
    read? limit text = some n ↔
      (text ≠ [] ∧ text.all Char.isDigit ∧ value text ≤ limit) ∧ value text = n := by
  unfold read?
  by_cases h : text ≠ [] ∧ text.all Char.isDigit ∧ value text ≤ limit
  · rw [if_pos h, Option.some_inj]
    exact (and_iff_right h).symm
  · rw [if_neg h]
    exact iff_of_false nofun fun hn => h hn.1

/-- A number that is read stays within the limit. -/
theorem read?_le {limit n : Nat} {text : List Char} (h : read? limit text = some n) :
    n ≤ limit := by
  obtain ⟨⟨_, _, hle⟩, rfl⟩ := read?_eq_some.1 h
  exact hle

/-- A text with a character that is no digit is no numeral. -/
theorem read?_of_mem {limit n : Nat} {c : Char} {text : List Char} (hc : c.isDigit = false)
    (hmem : c ∈ text) : read? limit text ≠ some n := by
  intro h
  have hall := List.all_eq_true.1 (read?_eq_some.1 h).1.2.1 c hmem
  rw [hc] at hall
  cases hall

/-- A plus sign is no digit, so it is read as a sign or not at all. -/
theorem readSigned?_eq_some_iff {limit n : Nat} {text : List Char} :
    readSigned? limit text = some n ↔ read? limit text = some n ∨
      ∃ digits, text = '+' :: digits ∧ read? limit digits = some n := by
  unfold readSigned?
  split
  · rename_i digits
    constructor
    · exact fun h => .inr ⟨digits, rfl, h⟩
    · rintro (h | ⟨_, heq, h⟩)
      · exact absurd h (read?_of_mem rfl List.mem_cons_self)
      · cases heq
        exact h
  · rename_i hplus
    constructor
    · exact .inl
    · rintro (h | ⟨digits, rfl, _⟩)
      · exact h
      · exact absurd rfl (hplus digits)

end ProxyTunnel.Decimal
