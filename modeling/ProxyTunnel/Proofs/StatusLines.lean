/-
The first line of an HTTP answer, by its bytes.

Which lines open a tunnel, and which refuse one, is said of bytes alone: how a line
begins, and which three bytes stand behind its first space. Decoded text plays no part
in it, though it is text that the handshake looks at. ASCII stands in the text where it
stands in the bytes, and a status that can be read is ASCII (`Http.status?_decodeChars`).
So a character that the three bytes cut in two is no part of a status, and neither is
one that repair has put in the place of what is no text.

Behind the space stand three digits, or the line is no status line, with one exception:
a number may have a plus sign, and so a sign and two digits are a status as well
(`Http.checkStatus_classifies`).
-/
import ProxyTunnel.Http.StatusLine
import ProxyTunnel.Proofs.Encoding

set_option autoImplicit false

namespace ProxyTunnel

namespace Http

/-! ## Lines of bytes -/

/-- A byte, in small letters. -/
def lowerByte (b : UInt8) : UInt8 := if 0x41 ≤ b ∧ b ≤ 0x5A then b + 0x20 else b

/-- The bytes of `http/1.`. -/
def protocolBytes : Bytes := [104, 116, 116, 112, 47, 49, 46]

/-- Whether a byte is a digit. -/
def isDigitByte (b : UInt8) : Bool := 0x30 ≤ b && b ≤ 0x39

/-- Whether three digits come first, the first of them a two. -/
def digitsAnnounce : Bytes → Bool
  | a :: b :: c :: _ => a == 0x32 && isDigitByte b && isDigitByte c
  | _ => false

/-- Whether a line begins with `HTTP/1.`, in letters of either case, and has
three digits behind its first space, the first of them a two. -/
def announces (line : Bytes) : Bool :=
  (line.take 7).map lowerByte == protocolBytes &&
    digitsAnnounce ((line.dropWhile (· ≠ 0x20)).drop 1)

/-- A line that begins with `HTTP/1.`, in letters of either case. -/
def BeginsWithProtocol (line : Bytes) : Prop := (line.take 7).map lowerByte = protocolBytes

/-- The three bytes behind the first space, or what there is of them. -/
def behindSpace (line : Bytes) : Bytes := ((line.dropWhile (· ≠ 0x20)).drop 1).take 3

/-- The number that a byte is as a digit. -/
def digitOf (b : UInt8) : Nat := b.toNat - 48

/-- Three digits behind the first space, and their value. -/
def StatusDigits (line : Bytes) (n : Nat) : Prop :=
  ∃ a b c, behindSpace line = [a, b, c] ∧ isDigitByte a ∧ isDigitByte b ∧ isDigitByte c ∧
    n = 100 * digitOf a + 10 * digitOf b + digitOf c

/-- A plus sign and two digits behind the first space, and their value. -/
def SignedDigits (line : Bytes) (n : Nat) : Prop :=
  ∃ b c, behindSpace line = [0x2B, b, c] ∧ isDigitByte b ∧ isDigitByte c ∧
    n = 10 * digitOf b + digitOf c

theorem behindSpace_eq_iff {line : Bytes} {a b c : UInt8} :
    behindSpace line = [a, b, c] ↔ [0x20, a, b, c] <+: line.dropWhile (· ≠ 0x20) := by
  have hspace : ∀ d rest, line.dropWhile (· ≠ 0x20) = d :: rest → d = 0x20 := by
    intro d rest hafter
    have hnot := List.head?_dropWhile_not (· ≠ (0x20 : UInt8)) line
    rw [hafter] at hnot
    exact not_not.1 (of_decide_eq_false hnot)
  unfold behindSpace
  generalize line.dropWhile (· ≠ 0x20) = after at hspace ⊢
  rcases after with _ | ⟨d, _ | ⟨x, _ | ⟨y, _ | ⟨z, rest⟩⟩⟩⟩
  case cons.cons.cons.cons => simp [hspace d _ rfl, List.cons_prefix_cons, eq_comm]
  all_goals simp [List.cons_prefix_cons]

/-! ## Bytes and characters -/

/-- The character of a byte. -/
def charOf (b : UInt8) : Char := Char.ofNat b.toNat

theorem lowerByte_lt {b : UInt8} (h : b < 0x80) :
    lowerByte b < 0x80 ∧ (charOf b).toLower = charOf (lowerByte b) := by
  have hall : ∀ n < 128, lowerByte (UInt8.ofNat n) < 0x80 ∧
      (charOf (UInt8.ofNat n)).toLower = charOf (lowerByte (UInt8.ofNat n)) := by decide
  have hb := hall b.toNat (UInt8.lt_iff_toNat_lt.1 h)
  rwa [UInt8.ofNat_toNat] at hb

theorem lowerByte_of_not_lt {b : UInt8} (h : ¬ b < 0x80) : lowerByte b = b := by
  unfold lowerByte
  apply if_neg
  intro hb
  exact h (UInt8.lt_of_le_of_lt hb.2 (by decide))

/-- Only the letters of ASCII have small letters here. -/
theorem toLower_of_le {c : Char} (h : 128 ≤ c.toNat) : c.toLower = c := by
  have hcap : ¬ (c.val ≥ 65 ∧ c.val ≤ 90) := by
    rintro ⟨_, hle⟩
    have hz : c.toNat ≤ 90 := UInt32.le_iff_toNat_le.1 hle
    omega
  unfold Char.toLower
  exact dif_neg hcap

theorem charOf_inj {a b : UInt8} (ha : a < 0x80) (hb : b < 0x80) : charOf a = charOf b ↔ a = b := by
  refine ⟨?_, congrArg charOf⟩
  intro h
  have hn := congrArg Char.toNat h
  unfold charOf at hn
  rw [Utf8.toNat_ofNat_of_lt ha, Utf8.toNat_ofNat_of_lt hb] at hn
  exact UInt8.toNat_inj.1 hn

/-- A change of characters that is a change of bytes in ASCII, and none anywhere else. -/
structure ChangesAscii (f : Char → Char) (g : UInt8 → UInt8) : Prop where
  ascii : ∀ b < 0x80, g b < 0x80 ∧ f (charOf b) = charOf (g b)
  char : ∀ c, 128 ≤ c.toNat → f c = c
  byte : ∀ b, ¬ b < 0x80 → g b = b

/-- A text begins with an ASCII word, but for such a change, if its bytes do. -/
theorem ChangesAscii.map_take {f : Char → Char} {g : UInt8 → UInt8} (h : ChangesAscii f g)
    {word : Bytes} (hw : ∀ x ∈ word, x < 0x80) (bytes : Bytes) :
    ((Utf8.decodeChars bytes).take word.length).map f = word.map charOf ↔
      (bytes.take word.length).map g = word := by
  induction word generalizing bytes with
  | nil => simp
  | cons x word ih =>
    have hx := hw x List.mem_cons_self
    rcases bytes with _ | ⟨b, bytes⟩
    · rw [Utf8.decodeChars]
      simp
    by_cases hb : b < 0x80
    · obtain ⟨hlt, hchange⟩ := h.ascii b hb
      rw [Utf8.decodeChars_of_lt hb, List.length_cons, List.take_succ_cons, List.take_succ_cons,
        List.map_cons, List.map_cons, List.map_cons, List.cons_eq_cons, List.cons_eq_cons,
        ih (fun y hy => hw y (List.mem_cons_of_mem x hy))]
      change f (charOf b) = charOf x ∧ _ ↔ _
      rw [hchange, charOf_inj hlt hx]
    · -- what stands here belongs to no word in ASCII, neither as text nor as a byte
      have hle := (Utf8.readChar_of_not_lt hb bytes).1
      rw [Utf8.decodeChars, List.length_cons, List.take_succ_cons, List.take_succ_cons,
        List.map_cons, List.map_cons, List.map_cons, List.cons_eq_cons, List.cons_eq_cons,
        h.char _ hle, h.byte b hb]
      refine iff_of_false ?_ ?_
      · rintro ⟨h, _⟩
        rw [h, charOf, Utf8.toNat_ofNat_of_lt hx] at hle
        have hlt : x.toNat < 128 := UInt8.lt_iff_toNat_lt.1 hx
        omega
      · rintro ⟨rfl, _⟩
        exact hb hx

theorem changesAscii_id : ChangesAscii id id :=
  ⟨fun _ hb => ⟨hb, rfl⟩, fun _ _ => rfl, fun _ _ => rfl⟩

theorem changesAscii_lower : ChangesAscii Char.toLower lowerByte :=
  ⟨fun _ => lowerByte_lt, fun _ => toLower_of_le, fun _ => lowerByte_of_not_lt⟩

/-- A text begins with an ASCII word if its bytes do. -/
theorem prefix_decodeChars_iff {word : Bytes} (hw : ∀ x ∈ word, x < 0x80) {bytes : Bytes} :
    word.map charOf <+: Utf8.decodeChars bytes ↔ word <+: bytes := by
  have htake := changesAscii_id.map_take hw bytes
  rw [List.map_id, List.map_id] at htake
  rw [List.prefix_iff_eq_take, List.prefix_iff_eq_take, List.length_map, eq_comm, htake, eq_comm]

theorem namesProtocol_decodeChars (line : Bytes) :
    namesProtocol (Utf8.decodeChars line) = ((line.take 7).map lowerByte == protocolBytes) := by
  have hword : protocolName = protocolBytes.map charOf := rfl
  have hascii : ∀ x ∈ protocolBytes, x < 0x80 := by
    have hall : (protocolBytes.all fun x => decide (x < 0x80)) = true := rfl
    intro x hx
    exact of_decide_eq_true (List.all_eq_true.1 hall x hx)
  have key := changesAscii_lower.map_take hascii line
  rw [← hword] at key
  rw [Bool.eq_iff_iff, namesProtocol, beq_iff_eq, beq_iff_eq]
  exact key

theorem isDigit_charOf {b : UInt8} (h : b < 0x80) : (charOf b).isDigit = isDigitByte b := by
  have hall : ∀ n < 128, (charOf (UInt8.ofNat n)).isDigit = isDigitByte (UInt8.ofNat n) := by
    decide
  have hb := hall b.toNat (UInt8.lt_iff_toNat_lt.1 h)
  rwa [UInt8.ofNat_toNat] at hb

theorem toNat_of_isDigitByte {b : UInt8} (h : isDigitByte b) : 48 ≤ b.toNat ∧ b.toNat ≤ 57 := by
  rw [isDigitByte, Bool.and_eq_true, decide_eq_true_eq, decide_eq_true_eq] at h
  exact ⟨UInt8.le_iff_toNat_le.1 h.1, UInt8.le_iff_toNat_le.1 h.2⟩

theorem lt_of_isDigitByte {b : UInt8} (h : isDigitByte b) : b < 0x80 := by
  rw [UInt8.lt_iff_toNat_lt]
  exact Nat.lt_of_le_of_lt (toNat_of_isDigitByte h).2 (by decide)

/-- A character of ASCII has a byte. -/
theorem exists_charOf_eq {c : Char} (h : c.toNat < 128) : ∃ b, b < 0x80 ∧ charOf b = c := by
  have hbyte : (UInt8.ofNat c.toNat).toNat = c.toNat := by
    rw [UInt8.toNat_ofNat']
    omega
  refine ⟨UInt8.ofNat c.toNat, ?_, by rw [charOf, hbyte, Char.ofNat_toNat]⟩
  rw [UInt8.lt_iff_toNat_lt, hbyte]
  exact h

theorem StatusDigits.lt {line : Bytes} {n : Nat} (h : StatusDigits line n) : n < 1000 := by
  obtain ⟨a, b, c, _, ha, hb, hc, rfl⟩ := h
  have ha' := toNat_of_isDigitByte ha
  have hb' := toNat_of_isDigitByte hb
  have hc' := toNat_of_isDigitByte hc
  unfold digitOf
  omega

/-- A sign and two digits are less than a hundred. -/
theorem SignedDigits.lt {line : Bytes} {n : Nat} (h : SignedDigits line n) : n < 100 := by
  obtain ⟨b, c, _, hb, hc, rfl⟩ := h
  have hb' := toNat_of_isDigitByte hb
  have hc' := toNat_of_isDigitByte hc
  unfold digitOf
  omega

/-! ## Numbers of three characters -/

/-- A number of three characters has three digits, or a sign and two. -/
theorem readSigned?_three {a b c : Char} {n : Nat} :
    Decimal.readSigned? 65535 [a, b, c] = some n ↔
      (a.isDigit ∧ b.isDigit ∧ c.isDigit ∧
        n = 100 * (a.toNat - 48) + 10 * (b.toNat - 48) + (c.toNat - 48)) ∨
      (a = '+' ∧ b.isDigit ∧ c.isDigit ∧ n = 10 * (b.toNat - 48) + (c.toNat - 48)) := by
  have hvalue : Decimal.value [a, b, c] =
      10 * (10 * (10 * 0 + (a.toNat - 48)) + (b.toNat - 48)) + (c.toNat - 48) := by
    unfold Decimal.value
    rw [Nat.ofDigitChars_cons, Nat.ofDigitChars_cons, Nat.ofDigitChars_cons, Nat.ofDigitChars_nil]
    rfl
  have hpair : Decimal.value [b, c] = 10 * (10 * 0 + (b.toNat - 48)) + (c.toNat - 48) := by
    unfold Decimal.value
    rw [Nat.ofDigitChars_cons, Nat.ofDigitChars_cons, Nat.ofDigitChars_nil]
    rfl
  have hthree : Decimal.read? 65535 [a, b, c] = some n ↔ a.isDigit ∧ b.isDigit ∧ c.isDigit ∧
      n = 100 * (a.toNat - 48) + 10 * (b.toNat - 48) + (c.toNat - 48) := by
    rw [Decimal.read?_eq_some, hvalue]
    simp only [List.all_cons, List.all_nil, Bool.and_eq_true, Bool.and_true]
    constructor
    · rintro ⟨⟨_, ⟨ha, hb, hc⟩, _⟩, rfl⟩
      exact ⟨ha, hb, hc, by omega⟩
    · rintro ⟨ha, hb, hc, rfl⟩
      have ha' := Decimal.toNat_of_isDigit ha
      have hb' := Decimal.toNat_of_isDigit hb
      have hc' := Decimal.toNat_of_isDigit hc
      exact ⟨⟨List.cons_ne_nil _ _, ⟨ha, hb, hc⟩, by omega⟩, by omega⟩
  have htwo : Decimal.read? 65535 [b, c] = some n ↔ b.isDigit ∧ c.isDigit ∧
      n = 10 * (b.toNat - 48) + (c.toNat - 48) := by
    rw [Decimal.read?_eq_some, hpair]
    simp only [List.all_cons, List.all_nil, Bool.and_eq_true, Bool.and_true]
    constructor
    · rintro ⟨⟨_, ⟨hb, hc⟩, _⟩, rfl⟩
      exact ⟨hb, hc, by omega⟩
    · rintro ⟨hb, hc, rfl⟩
      have hb' := Decimal.toNat_of_isDigit hb
      have hc' := Decimal.toNat_of_isDigit hc
      exact ⟨⟨List.cons_ne_nil _ _, ⟨hb, hc⟩, by omega⟩, by omega⟩
  rw [Decimal.readSigned?_eq_some_iff, hthree]
  refine or_congr_right ?_
  rw [← htwo]
  constructor
  · rintro ⟨_, heq, hread⟩
    cases heq
    exact ⟨rfl, hread⟩
  · rintro ⟨rfl, hread⟩
    exact ⟨_, rfl, hread⟩

/-- The same of their bytes. -/
theorem readSigned?_charOf {a b c : UInt8} (ha : a < 0x80) (hb : b < 0x80) (hc : c < 0x80)
    {n : Nat} : Decimal.readSigned? 65535 [charOf a, charOf b, charOf c] = some n ↔
      (isDigitByte a ∧ isDigitByte b ∧ isDigitByte c ∧
        n = 100 * digitOf a + 10 * digitOf b + digitOf c) ∨
      (a = 0x2B ∧ isDigitByte b ∧ isDigitByte c ∧ n = 10 * digitOf b + digitOf c) := by
  have hplus : charOf a = '+' ↔ a = 0x2B := @charOf_inj a 0x2B ha (by decide)
  have hvalue : ∀ d < 0x80, (charOf d).toNat - 48 = digitOf d := by
    intro d hd
    rw [charOf, Utf8.toNat_ofNat_of_lt hd, digitOf]
  rw [readSigned?_three, hplus, isDigit_charOf ha, isDigit_charOf hb, isDigit_charOf hc,
    hvalue a ha, hvalue b hb, hvalue c hc]

/-! ## The status -/

theorem status?_eq_some_iff {line : List Char} {n : Nat} : status? line = some n ↔
    namesProtocol line = true ∧ ∃ a b c text,
      line.dropWhile (· ≠ ' ') = ' ' :: a :: b :: c :: text ∧
        Decimal.readSigned? 65535 [a, b, c] = some n := by
  unfold status?
  by_cases hname : namesProtocol line = true
  · rw [if_pos hname, and_iff_right hname]
    split
    · rename_i a b c text heq
      rw [heq]
      constructor
      · exact fun h => ⟨a, b, c, text, rfl, h⟩
      · rintro ⟨_, _, _, _, htext, h⟩
        cases htext
        exact h
    · rename_i hnone
      refine iff_of_false nofun ?_
      rintro ⟨a, b, c, text, htext, _⟩
      exact hnone a b c text htext
  · rw [if_neg hname]
    exact iff_of_false nofun fun h => hname h.1

/-- **A status is read from bytes**: three digits, or a sign and two. -/
theorem status?_decodeChars {line : Bytes} {n : Nat} :
    status? (Utf8.decodeChars line) = some n ↔
      BeginsWithProtocol line ∧ (StatusDigits line n ∨ SignedDigits line n) := by
  have hspace : (Utf8.decodeChars line).dropWhile (· ≠ ' ') =
      Utf8.decodeChars (line.dropWhile (· ≠ 0x20)) :=
    @Utf8.dropWhile_decodeChars 0x20 (by decide) line
  have hwindow : ∀ {x y z : UInt8}, x < 0x80 → y < 0x80 → z < 0x80 →
      ([' ', charOf x, charOf y, charOf z] <+: Utf8.decodeChars (line.dropWhile (· ≠ 0x20)) ↔
        behindSpace line = [x, y, z]) := by
    intro x y z hx hy hz
    have hascii : ∀ d ∈ [0x20, x, y, z], d < 0x80 := by simp [hx, hy, hz]
    rw [behindSpace_eq_iff]
    exact prefix_decodeChars_iff hascii
  rw [status?_eq_some_iff, namesProtocol_decodeChars, beq_iff_eq, hspace]
  refine and_congr_right fun _ => ?_
  constructor
  · rintro ⟨a, b, c, text, htext, hread⟩
    have hprefix : [' ', a, b, c] <+: Utf8.decodeChars (line.dropWhile (· ≠ 0x20)) :=
      ⟨text, htext.symm⟩
    -- digits and signs are ASCII, so each is a byte of its own
    have hascii : a.toNat < 128 ∧ b.toNat < 128 ∧ c.toNat < 128 := by
      have hdigit : ∀ {d : Char}, d.isDigit = true → d.toNat < 128 := by
        intro d hd
        have := Decimal.toNat_of_isDigit hd
        omega
      rcases readSigned?_three.1 hread with ⟨ha, hb, hc, _⟩ | ⟨rfl, hb, hc, _⟩
      · exact ⟨hdigit ha, hdigit hb, hdigit hc⟩
      · exact ⟨by decide, hdigit hb, hdigit hc⟩
    obtain ⟨x, hx, rfl⟩ := exists_charOf_eq hascii.1
    obtain ⟨y, hy, rfl⟩ := exists_charOf_eq hascii.2.1
    obtain ⟨z, hz, rfl⟩ := exists_charOf_eq hascii.2.2
    have hbytes := (hwindow hx hy hz).1 hprefix
    rcases (readSigned?_charOf hx hy hz).1 hread with ⟨ha, hb, hc, hn⟩ | ⟨rfl, hb, hc, hn⟩
    · exact .inl ⟨x, y, z, hbytes, ha, hb, hc, hn⟩
    · exact .inr ⟨y, z, hbytes, hb, hc, hn⟩
  · rintro (⟨x, y, z, hbytes, ha, hb, hc, hn⟩ | ⟨y, z, hbytes, hb, hc, hn⟩)
    · have hx := lt_of_isDigitByte ha
      have hy := lt_of_isDigitByte hb
      have hz := lt_of_isDigitByte hc
      obtain ⟨text, htext⟩ := (hwindow hx hy hz).2 hbytes
      exact ⟨_, _, _, text, htext.symm, (readSigned?_charOf hx hy hz).2 (.inl ⟨ha, hb, hc, hn⟩)⟩
    · have hy := lt_of_isDigitByte hb
      have hz := lt_of_isDigitByte hc
      obtain ⟨text, htext⟩ := (hwindow (by decide) hy hz).2 hbytes
      exact ⟨_, _, _, text, htext.symm,
        (readSigned?_charOf (by decide) hy hz).2 (.inr ⟨rfl, hb, hc, hn⟩)⟩

/-! ## The three kinds of lines -/

theorem checkStatus_eq_ok {line : String} :
    checkStatus line = .ok () ↔
      ∃ status, status? line.toList = some status ∧ 200 ≤ status ∧ status ≤ 299 := by
  unfold checkStatus
  rcases status? line.toList with _ | status
  · simp
  by_cases h : 200 ≤ status ∧ status ≤ 299
  · simp [h]
  · simp [h]

theorem checkStatus_eq_rejected {line : String} {n : UInt16} :
    checkStatus line = .error (.rejected n) ↔ ∃ status, status? line.toList = some status ∧
      ¬ (200 ≤ status ∧ status ≤ 299) ∧ UInt16.ofNat status = n := by
  unfold checkStatus
  rcases status? line.toList with _ | status
  · simp
  by_cases h : 200 ≤ status ∧ status ≤ 299
  · simp [h]
  · simp only [if_neg h]
    constructor
    · intro hcheck
      cases hcheck
      exact ⟨status, rfl, h, rfl⟩
    · rintro ⟨_, hstatus, _, rfl⟩
      cases hstatus
      rfl

theorem checkStatus_eq_noStatusLine {line : String} :
    checkStatus line = .error (.noStatusLine line) ↔ status? line.toList = none := by
  unfold checkStatus
  rcases status? line.toList with _ | status
  · simp
  by_cases h : 200 ≤ status ∧ status ≤ 299
  · simp [h]
  · simp only [if_neg h]
    simp

/-- A status that announces a tunnel is written with three digits, the first of
them a two. -/
theorem digitsAnnounce_iff {line : Bytes} :
    digitsAnnounce ((line.dropWhile (· ≠ 0x20)).drop 1) ↔
      ∃ n, (StatusDigits line n ∨ SignedDigits line n) ∧ 200 ≤ n ∧ n ≤ 299 := by
  constructor
  · intro h
    unfold digitsAnnounce at h
    split at h
    case h_2 => cases h
    rename_i a b c rest hbehind
    rw [Bool.and_eq_true, Bool.and_eq_true, beq_iff_eq] at h
    obtain ⟨⟨rfl, hb⟩, hc⟩ := h
    have hb' := toNat_of_isDigitByte hb
    have hc' := toNat_of_isDigitByte hc
    refine ⟨_, .inl ⟨0x32, b, c, by rw [behindSpace, hbehind]; rfl, rfl, hb, hc, rfl⟩, ?_⟩
    have htwo : digitOf 0x32 = 2 := rfl
    unfold digitOf at *
    omega
  · rintro ⟨n, ⟨a, b, c, hbytes, ha, hb, hc, rfl⟩ | ⟨b, c, hbytes, hb, hc, rfl⟩, hle, hge⟩
    · have ha' := toNat_of_isDigitByte ha
      have hb' := toNat_of_isDigitByte hb
      have hc' := toNat_of_isDigitByte hc
      unfold digitOf at hle hge
      obtain rfl : a = 0x32 := by
        rw [← UInt8.toNat_inj]
        change a.toNat = 50
        omega
      obtain ⟨rest, hrest⟩ := behindSpace_eq_iff.1 hbytes
      rw [← hrest]
      simp [digitsAnnounce, hb, hc]
    · have hlt := SignedDigits.lt ⟨b, c, hbytes, hb, hc, rfl⟩
      omega

/-- **A line is accepted for its bytes**, whatever its text makes of those that
are no text. -/
theorem checkStatus_decodeLossy (line : Bytes) :
    checkStatus (Utf8.decodeLossy line) = .ok () ↔ announces line := by
  rw [checkStatus_eq_ok, Utf8.decodeLossy, String.toList_ofList, announces, Bool.and_eq_true,
    beq_iff_eq, digitsAnnounce_iff]
  constructor
  · rintro ⟨n, hstatus, hrange⟩
    obtain ⟨hname, hdigits⟩ := status?_decodeChars.1 hstatus
    exact ⟨hname, n, hdigits, hrange⟩
  · rintro ⟨hname, n, hdigits, hrange⟩
    exact ⟨n, status?_decodeChars.2 ⟨hname, hdigits⟩, hrange⟩

/-- **A first line is one of three**, by the bytes of its text: it announces a tunnel, it
refuses one with a status, or it is no status line and is reported as it stands. A status
is three digits, or a sign and two. -/
theorem checkStatus_classifies (text : String) :
    (checkStatus text = .ok () ↔ BeginsWithProtocol (Utf8.encode text) ∧
      ∃ n, StatusDigits (Utf8.encode text) n ∧ 200 ≤ n ∧ n ≤ 299) ∧
    (∀ n : UInt16, checkStatus text = .error (.rejected n) ↔
      BeginsWithProtocol (Utf8.encode text) ∧
        (StatusDigits (Utf8.encode text) n.toNat ∧ ¬ (200 ≤ n.toNat ∧ n.toNat ≤ 299) ∨
          SignedDigits (Utf8.encode text) n.toNat)) ∧
    (checkStatus text = .error (.noStatusLine text) ↔
      ¬ (BeginsWithProtocol (Utf8.encode text) ∧
        ∃ n, StatusDigits (Utf8.encode text) n ∨ SignedDigits (Utf8.encode text) n)) := by
  have hstatus : ∀ n, status? text.toList = some n ↔ BeginsWithProtocol (Utf8.encode text) ∧
      (StatusDigits (Utf8.encode text) n ∨ SignedDigits (Utf8.encode text) n) := by
    intro n
    rw [← Utf8.decodeChars_encode text, status?_decodeChars]
  refine ⟨?_, ?_, ?_⟩
  · rw [checkStatus_eq_ok]
    constructor
    · rintro ⟨n, hread, hrange⟩
      obtain ⟨hname, hdigits | hsigned⟩ := (hstatus n).1 hread
      · exact ⟨hname, n, hdigits, hrange⟩
      · have hlt := hsigned.lt
        omega
    · rintro ⟨hname, n, hdigits, hrange⟩
      exact ⟨n, (hstatus n).2 ⟨hname, .inl hdigits⟩, hrange⟩
  · intro n
    rw [checkStatus_eq_rejected]
    constructor
    · rintro ⟨status, hread, hrange, rfl⟩
      obtain ⟨hname, hdigits | hsigned⟩ := (hstatus status).1 hread
      · have hlt := hdigits.lt
        rw [UInt16.toNat_ofNat_of_lt' (Nat.lt_trans hlt (by decide))]
        exact ⟨hname, .inl ⟨hdigits, hrange⟩⟩
      · have hlt := hsigned.lt
        rw [UInt16.toNat_ofNat_of_lt' (Nat.lt_trans hlt (by decide))]
        exact ⟨hname, .inr hsigned⟩
    · rintro ⟨hname, ⟨hdigits, hrange⟩ | hsigned⟩
      · exact ⟨_, (hstatus _).2 ⟨hname, .inl hdigits⟩, hrange, UInt16.ofNat_toNat⟩
      · have hlt := hsigned.lt
        exact ⟨_, (hstatus _).2 ⟨hname, .inr hsigned⟩, by omega, UInt16.ofNat_toNat⟩
  · rw [checkStatus_eq_noStatusLine, Option.eq_none_iff_forall_ne_some, not_and, not_exists]
    constructor
    · exact fun h hname n hdigits => h n ((hstatus n).2 ⟨hname, hdigits⟩)
    · intro h n hread
      exact h ((hstatus n).1 hread).1 n ((hstatus n).1 hread).2

/-- A sign stands for a digit: what is no status line is a refusal with status 20. -/
theorem checkStatus_signed :
    checkStatus "HTTP/1.1 +20 OK" = .error (.rejected 20) ∧
      ¬ ∃ n, StatusDigits (Utf8.encode "HTTP/1.1 +20 OK") n := by
  refine ⟨by decide, ?_⟩
  rintro ⟨n, a, b, c, hbytes, ha, _⟩
  have hwindow : behindSpace (Utf8.encode "HTTP/1.1 +20 OK") = [0x2B, 0x32, 0x30] := by decide
  rw [hwindow] at hbytes
  cases hbytes
  exact absurd ha (by decide)

end Http

end ProxyTunnel
