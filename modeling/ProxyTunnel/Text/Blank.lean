/-
Blank characters, and texts that hold nothing else.

A character is blank if Unicode gives it the property White_Space. A text is
blank if all its characters are; the empty text is blank. Credentials with a
blank part are treated as absent where a protocol cannot use them.
-/

set_option autoImplicit false

namespace ProxyTunnel.Text

/-- Characters with the property White_Space. -/
def isBlank (c : Char) : Bool :=
  let n := c.toNat
  (9 ≤ n && n ≤ 13) || n == 0x20 || n == 0x85 || n == 0xA0 || n == 0x1680 ||
    (0x2000 ≤ n && n ≤ 0x200A) || n == 0x2028 || n == 0x2029 || n == 0x202F ||
    n == 0x205F || n == 0x3000

/-- Whether a text holds blank characters only. -/
def blank (text : String) : Bool :=
  text.toList.all isBlank

/-- The space, the tab and the two line breaks are blank. -/
theorem isBlank_of_isWhitespace {c : Char} (h : c.isWhitespace) : isBlank c := by
  simp only [Char.isWhitespace, Bool.or_eq_true, decide_eq_true_eq] at h
  rcases h with ((rfl | rfl) | rfl) | rfl <;> rfl

end ProxyTunnel.Text
