/-
IP addresses are read as they are written.

Each reader takes a prefix of a text and returns what stands behind it, so each
statement is about an address in front of any text that does not go on with it
(`Stops`). For IPv4 this is exact: `Ip4.read` reads the written form of an address
and no other (`Ip4.read_eq_some_iff`). IPv6 addresses have many forms; the written
one is read back (`Ip6.read_write`). The reader tries a dotted address wherever
two groups have room, so it must be seen that no group looks like one, and the gap
has to be given back the zero groups that it stands for.

An endpoint is read back up to its flow information (`Endpoint.parse?_write`).
-/
import ProxyTunnel.Address.Endpoint

set_option autoImplicit false

namespace ProxyTunnel

/-! ## Words in front of a text -/

/-- A text does not begin with such a character. -/
def Stops (p : Char → Bool) (text : List Char) : Prop := ∀ c, text.head? = some c → p c = false

section

variable {p q : Char → Bool} {c : Char} {text word rest : List Char}

theorem stops_cons (h : p c = false) (text : List Char) : Stops p (c :: text) := by
  rintro d ⟨⟩
  exact h

theorem not_stops_cons (h : p c = true) : ¬ Stops p (c :: text) := fun hs => by
  rw [hs c rfl] at h
  cases h

theorem stops_dropWhile (p : Char → Bool) (text : List Char) : Stops p (text.dropWhile p) := by
  intro c hc
  have hfirst := List.head?_dropWhile_not p text
  rw [hc] at hfirst
  simpa using hfirst

theorem Stops.mono (h : Stops p text) (hpq : ∀ c, q c = true → p c = true) : Stops q text := by
  intro c hc
  cases hq : q c with
  | false => rfl
  | true =>
    rw [← h c hc, hpq c hq]

theorem Stops.takeWhile_eq (h : Stops p text) : text.takeWhile p = [] := by
  cases text with
  | nil => rfl
  | cons c text => rw [List.takeWhile_cons, h c rfl, if_neg Bool.false_ne_true]

theorem Stops.dropWhile_eq (h : Stops p text) : text.dropWhile p = text := by
  cases text with
  | nil => rfl
  | cons c text => rw [List.dropWhile_cons, h c rfl, if_neg Bool.false_ne_true]

theorem takeWhile_word (hword : ∀ c ∈ word, p c = true) (hrest : Stops p rest) :
    (word ++ rest).takeWhile p = word := by
  rw [List.takeWhile_append_of_pos hword, hrest.takeWhile_eq, List.append_nil]

theorem dropWhile_word (hword : ∀ c ∈ word, p c = true) (hrest : Stops p rest) :
    (word ++ rest).dropWhile p = rest := by
  rw [List.dropWhile_append_of_pos hword, hrest.dropWhile_eq]

end

/-! ## Numerals -/

namespace Decimal

/-- The character of a digit is that of its value. -/
theorem digitChar_of_isDigit {c : Char} (h : c.isDigit) :
    c.toNat - 48 < 10 ∧ (c.toNat - 48).digitChar = c := by
  obtain ⟨hlow, hhigh⟩ := toNat_of_isDigit h
  have hchars : ∀ n < 58, 48 ≤ n → (n - 48).digitChar = Char.ofNat n := by decide
  refine ⟨by omega, ?_⟩
  rw [hchars c.toNat (by omega) hlow, Char.ofNat_toNat]

/-- Only zero is written with a leading zero. -/
theorem eq_zero_of_head?_write {n : Nat} (h : (write n).head? = some '0') : n = 0 := by
  unfold write at h
  induction n using Nat.strongRecOn with
  | ind n ih =>
    rw [Nat.toDigits_eq_if (by decide)] at h
    by_cases hlt : n < 10
    · rw [if_pos hlt] at h
      simpa using h
    · obtain ⟨c, front, hfront⟩ := List.exists_cons_of_ne_nil (@Nat.toDigits_ne_nil (n / 10) 10)
      rw [if_neg hlt, hfront, List.cons_append, List.head?_cons] at h
      have := ih (n / 10) (by omega) (by rw [hfront, List.head?_cons, h])
      omega

/-- Digits behind a numeral that is not zero continue it. -/
theorem write_append {n : Nat} (hpos : 0 < n) {digits : List Char}
    (hall : ∀ c ∈ digits, c.isDigit) :
    write n ++ digits = write (Nat.ofDigitChars 10 digits n) := by
  induction digits generalizing n with
  | nil => exact List.append_nil _
  | cons c digits ih =>
    obtain ⟨hlt, hchar⟩ := digitChar_of_isDigit (hall c List.mem_cons_self)
    have hmore := ih (n := 10 * n + (c.toNat - 48)) (by omega)
      fun d hd => hall d (List.mem_cons_of_mem _ hd)
    rw [Nat.ofDigitChars_cons]
    refine Eq.trans ?_ hmore
    rw [write, write, ← Nat.toDigits_append_toDigits (by decide) hpos hlt,
      Nat.toDigits_of_lt_base hlt, hchar, List.append_assoc]
    rfl

/-- Digits without a leading zero are written as they are. -/
theorem write_value {digits : List Char} (hne : digits ≠ []) (hall : ∀ c ∈ digits, c.isDigit)
    (hzero : digits.head? = some '0' → digits.length ≤ 1) : write (value digits) = digits := by
  cases digits with
  | nil => exact absurd rfl hne
  | cons c digits =>
    obtain ⟨hlt, hchar⟩ := digitChar_of_isDigit (hall c List.mem_cons_self)
    have hfirst : write (c.toNat - 48) = [c] := by
      rw [write, Nat.toDigits_of_lt_base hlt, hchar]
    have hvalue : value (c :: digits) = Nat.ofDigitChars 10 digits (c.toNat - 48) := by
      rw [value, Nat.ofDigitChars_cons, Nat.mul_zero, Nat.zero_add]
      rfl
    rcases Nat.eq_zero_or_pos (c.toNat - 48) with hnone | hpos
    · -- a zero stands alone
      obtain rfl : c = '0' := by rw [← hchar, hnone]; rfl
      have hlength := hzero rfl
      rw [List.length_cons] at hlength
      obtain rfl : digits = [] := List.eq_nil_of_length_eq_zero (by omega)
      rfl
    · rw [hvalue, ← write_append hpos fun d hd => hall d (List.mem_cons_of_mem _ hd), hfirst]
      rfl

end Decimal

/-! ## IPv4 -/

namespace Ip4

/-- **An octet is read from its numeral and from nothing else.** -/
theorem readOctet_eq_some_iff {text rest : List Char} {octet : UInt8} :
    readOctet text = some (octet, rest) ↔
      text = writeOctet octet ++ rest ∧ Stops Char.isDigit rest := by
  constructor
  · intro h
    simp only [readOctet] at h
    by_cases hbad : 3 < (text.takeWhile Char.isDigit).length ∨
        (text.takeWhile Char.isDigit).head? = some '0' ∧ 1 < (text.takeWhile Char.isDigit).length
    · rw [if_pos hbad] at h
      cases h
    rw [if_neg hbad] at h
    obtain ⟨n, hread, hpair⟩ := Option.map_eq_some_iff.1 h
    cases hpair
    obtain ⟨⟨hne, hall, hle⟩, rfl⟩ := Decimal.read?_eq_some.1 hread
    -- the digits that were taken are the numeral of their value
    have hnumeral : writeOctet (UInt8.ofNat (Decimal.value (text.takeWhile Char.isDigit))) =
        text.takeWhile Char.isDigit := by
      have hvalue : (UInt8.ofNat (Decimal.value (text.takeWhile Char.isDigit))).toNat =
          Decimal.value (text.takeWhile Char.isDigit) :=
        UInt8.toNat_ofNat_of_lt (Nat.lt_succ_of_le hle)
      rw [writeOctet, hvalue]
      refine Decimal.write_value hne (List.all_eq_true.1 hall) fun hzero => ?_
      exact Nat.le_of_not_lt fun hlong => hbad (.inr ⟨hzero, hlong⟩)
    rw [hnumeral]
    exact ⟨(List.takeWhile_append_dropWhile ..).symm, stops_dropWhile _ _⟩
  · rintro ⟨rfl, hrest⟩
    have hlt := octet.toNat_lt
    have hdigits : ∀ c ∈ writeOctet octet, c.isDigit := fun _ => Decimal.isDigit_of_mem_write
    have hlength : (writeOctet octet).length ≤ 3 :=
      (Nat.length_toDigits_le_iff (by decide) (by decide)).2 (by omega)
    -- a numeral begins with a zero only if it is one
    have hgood : ¬ (3 < (writeOctet octet).length ∨
        (writeOctet octet).head? = some '0' ∧ 1 < (writeOctet octet).length) := by
      rintro (hlong | ⟨hzero, hlong⟩)
      · omega
      · rw [writeOctet, Decimal.eq_zero_of_head?_write hzero] at hlong
        exact absurd hlong (by decide)
    simp only [readOctet]
    rw [takeWhile_word hdigits hrest, dropWhile_word hdigits hrest, if_neg hgood, writeOctet,
      Decimal.read?_write (by omega), Option.map_some, UInt8.ofNat_toNat]

theorem readDottedOctet_eq_some_iff {text rest : List Char} {octet : UInt8} :
    readDottedOctet text = some (octet, rest) ↔
      text = '.' :: (writeOctet octet ++ rest) ∧ Stops Char.isDigit rest := by
  constructor
  · intro h
    unfold readDottedOctet at h
    split at h
    · obtain ⟨rfl, hrest⟩ := readOctet_eq_some_iff.1 h
      exact ⟨rfl, hrest⟩
    · cases h
  · rintro ⟨rfl, hrest⟩
    exact readOctet_eq_some_iff.2 ⟨rfl, hrest⟩

/-- **An IPv4 address is read from its written form and from nothing else.** -/
theorem read_eq_some_iff {text rest : List Char} {ip : Ip4} :
    read text = some (ip, rest) ↔ text = ip.write ++ rest ∧ Stops Char.isDigit rest := by
  constructor
  · intro h
    simp only [read, Option.bind_eq_bind, Option.bind_eq_some_iff, Option.pure_def,
      Option.some.injEq] at h
    obtain ⟨⟨a, text₁⟩, ha, ⟨b, text₂⟩, hb, ⟨c, text₃⟩, hc, ⟨d, text₄⟩, hd, hip⟩ := h
    cases hip
    obtain ⟨rfl, _⟩ := readOctet_eq_some_iff.1 ha
    obtain ⟨rfl, _⟩ := readDottedOctet_eq_some_iff.1 hb
    obtain ⟨rfl, _⟩ := readDottedOctet_eq_some_iff.1 hc
    obtain ⟨rfl, hrest⟩ := readDottedOctet_eq_some_iff.1 hd
    refine ⟨?_, hrest⟩
    simp [write]
  · rintro ⟨rfl, hrest⟩
    have hdot : ∀ more, Stops Char.isDigit ('.' :: more) := stops_cons rfl
    have hoctet : ∀ octet more, readOctet (writeOctet octet ++ '.' :: more) =
        some (octet, '.' :: more) := fun _ _ => readOctet_eq_some_iff.2 ⟨rfl, hdot _⟩
    have hlast : readOctet (writeOctet ip.d ++ rest) = some (ip.d, rest) :=
      readOctet_eq_some_iff.2 ⟨rfl, hrest⟩
    simp [read, write, readDottedOctet, hoctet, hlast]

theorem octets_of_ofOctets? {octets : Bytes} {ip : Ip4} (h : ofOctets? octets = some ip) :
    ip.octets = octets := by
  unfold ofOctets? at h
  split at h <;> cases h
  rfl

end Ip4

/-! ## IPv6 -/

namespace Ip6

theorem hexDigit_digitChar : ∀ n < 16, hexDigit n.digitChar = n := by decide

theorem isHexDigit_digitChar : ∀ n < 16, isHexDigit n.digitChar = true := by decide

/-- A hexadecimal numeral is made of hexadecimal digits, and its value is its number. -/
theorem hexValue_toDigits (n : Nat) :
    hexValue (Nat.toDigits 16 n) = n ∧ ∀ c ∈ Nat.toDigits 16 n, isHexDigit c = true := by
  induction n using Nat.strongRecOn with
  | ind n ih =>
    rw [Nat.toDigits_eq_if (by decide)]
    by_cases hlt : n < 16
    · rw [if_pos hlt]
      simp [hexValue, hexDigit_digitChar n hlt, isHexDigit_digitChar n hlt]
    · obtain ⟨hvalue, hall⟩ := ih (n / 16) (by omega)
      have hdigit : n % 16 < 16 := Nat.mod_lt n (by decide)
      rw [if_neg hlt]
      constructor
      · rw [hexValue] at hvalue
        rw [hexValue, List.foldl_append, hvalue, List.foldl_cons, List.foldl_nil,
          hexDigit_digitChar _ hdigit]
        omega
      · intro c hc
        rcases List.mem_append.1 hc with hc | hc
        · exact hall c hc
        · obtain rfl := List.mem_singleton.1 hc
          exact isHexDigit_digitChar _ hdigit

theorem isHexDigit_of_mem_writeGroup (g : UInt16) : ∀ c ∈ writeGroup g, isHexDigit c = true :=
  (hexValue_toDigits g.toNat).2

/-- A group is read back. -/
theorem readGroup_writeGroup (g : UInt16) {rest : List Char} (hrest : Stops isHexDigit rest) :
    readGroup (writeGroup g ++ rest) = some (g, rest) := by
  have hlt := g.toNat_lt
  have hhex := isHexDigit_of_mem_writeGroup g
  have hlength : (writeGroup g).length ≤ 4 :=
    (Nat.length_toDigits_le_iff (by decide) (by decide)).2 (by omega)
  have hpos : 0 < (writeGroup g).length := Nat.length_toDigits_pos
  have hvalue : hexValue (writeGroup g) = g.toNat := (hexValue_toDigits g.toNat).1
  simp only [readGroup]
  rw [takeWhile_word hhex hrest, dropWhile_word hhex hrest, if_neg (by omega), hvalue,
    UInt16.ofNat_toNat]

/-- Characters that go on with a group, or make a dotted address of it. -/
def goesOn (c : Char) : Bool := isHexDigit c || c == '.'

theorem stops_hex {rest : List Char} (h : Stops goesOn rest) : Stops isHexDigit rest :=
  h.mono fun c hc => by rw [goesOn, hc, Bool.true_or]

/-- A dotted address begins with decimal digits and a dot. -/
theorem split_write_ip4 (ip : Ip4) (more : List Char) : ∃ behind,
    (ip.write ++ more).takeWhile isHexDigit = Ip4.writeOctet ip.a ∧
      (ip.write ++ more).dropWhile isHexDigit = '.' :: behind := by
  have hhex : ∀ c ∈ Ip4.writeOctet ip.a, isHexDigit c = true := by
    intro c hc
    rw [isHexDigit, Decimal.isDigit_of_mem_write hc, Bool.true_or, Bool.true_or]
  have htext : ip.write ++ more = Ip4.writeOctet ip.a ++ '.' :: (Ip4.writeOctet ip.b ++
      '.' :: (Ip4.writeOctet ip.c ++ '.' :: (Ip4.writeOctet ip.d ++ more))) := by
    simp [Ip4.write]
  rw [htext]
  exact ⟨_, takeWhile_word hhex (stops_cons rfl _), dropWhile_word hhex (stops_cons rfl _)⟩

/-- No group looks like a dotted address. -/
theorem read_ip4_writeGroup (g : UInt16) {rest : List Char} (hrest : Stops goesOn rest) :
    Ip4.read (writeGroup g ++ rest) = none := by
  cases h : Ip4.read (writeGroup g ++ rest) with
  | none => rfl
  | some found =>
    obtain ⟨htext, _⟩ := Ip4.read_eq_some_iff.1 h
    obtain ⟨behind, _, hdot⟩ := split_write_ip4 found.1 found.2
    -- behind the hexadecimal digits stands a dot in one, and none in the other
    rw [← htext, dropWhile_word (isHexDigit_of_mem_writeGroup g) (stops_hex hrest)] at hdot
    rw [hdot] at hrest
    exact absurd hrest (not_stops_cons rfl)

/-- Without a digit there is no dotted address. -/
theorem read_ip4_of_stops {text : List Char} (h : Stops isHexDigit text) : Ip4.read text = none := by
  cases hread : Ip4.read text with
  | none => rfl
  | some found =>
    obtain ⟨rfl, _⟩ := Ip4.read_eq_some_iff.1 hread
    obtain ⟨_, hfirst, _⟩ := split_write_ip4 found.1 found.2
    rw [h.takeWhile_eq] at hfirst
    exact absurd hfirst.symm (Decimal.write_ne_nil _)

/-- Nor is there a group. -/
theorem readGroup_of_stops {text : List Char} (h : Stops isHexDigit text) :
    readGroup text = none := by
  simp only [readGroup]
  rw [h.takeWhile_eq]
  rfl

/-! ### Runs of groups -/

/-- What stands in front of a group: a colon, unless it is the first one. -/
def lead (first : Bool) : List Char := if first then [] else [':']

theorem skipColon_lead (first : Bool) (text : List Char) :
    skipColon first (lead first ++ text) = some text := by
  cases first <;> rfl

/-- Where no group begins, none is read. -/
theorem readGroups_of_stops {text : List Char} (h : Stops isHexDigit text) (room : Nat)
    (first : Bool) : readGroups room first (lead first ++ text) = ⟨[], false, lead first ++ text⟩ := by
  cases room with
  | zero => rfl
  | succ room =>
    simp only [readGroups, skipColon_lead, read_ip4_of_stops h, ite_self, readGroup_of_stops h]

/-- Nor is one where there is no colon. -/
theorem readGroups_of_no_colon {text : List Char} (h : Stops (· == ':') text) (room : Nat) :
    readGroups room false text = ⟨[], false, text⟩ := by
  have hskip : skipColon false text = none := by
    unfold skipColon
    rw [if_neg Bool.false_ne_true]
    split
    · exact absurd h (not_stops_cons rfl)
    · rfl
  cases room with
  | zero => rfl
  | succ room => simp only [readGroups, hskip]

/-- One group is read, and then those behind it. -/
theorem readGroups_writeGroup (room : Nat) (first : Bool) (g : UInt16) {rest : List Char}
    (hrest : Stops goesOn rest) :
    readGroups (room + 1) first (lead first ++ (writeGroup g ++ rest)) =
      ⟨g :: (readGroups room false rest).groups, (readGroups room false rest).dotted,
        (readGroups room false rest).rest⟩ := by
  simp only [readGroups, skipColon_lead, read_ip4_writeGroup g hrest, ite_self,
    readGroup_writeGroup g (stops_hex hrest)]

/-- A dotted address ends a run. -/
theorem readGroups_write_ip4 (room : Nat) (first : Bool) (ip : Ip4) {rest : List Char}
    (hrest : Stops Char.isDigit rest) :
    readGroups (room + 2) first (lead first ++ (ip.write ++ rest)) =
      ⟨groupsOfIp4 ip, true, rest⟩ := by
  rw [readGroups, skipColon_lead]
  dsimp only
  rw [if_neg (Nat.succ_ne_zero room), Ip4.read_eq_some_iff.2 ⟨rfl, hrest⟩]

/-- **Groups that are written are read back**, if nothing behind them goes on. -/
theorem readGroups_writeGroups {groups : List UInt16} {room : Nat} (hroom : groups.length ≤ room)
    {rest : List Char} (hrest : Stops goesOn rest)
    (hends : ∀ room, readGroups room false rest = ⟨[], false, rest⟩) :
    readGroups room true (writeGroups groups ++ rest) = ⟨groups, false, rest⟩ := by
  cases groups with
  | nil => exact readGroups_of_stops (stops_hex hrest) room true
  | cons g groups =>
    -- all groups but the first have a colon in front of them
    suffices h : ∀ first, readGroups room first (lead first ++ (writeGroups (g :: groups) ++ rest)) =
        ⟨g :: groups, false, rest⟩ from h true
    induction groups generalizing g room with
    | nil =>
      intro first
      obtain ⟨room, rfl⟩ := Nat.exists_eq_succ_of_ne_zero (Nat.ne_of_gt hroom)
      rw [writeGroups, readGroups_writeGroup room first g hrest, hends]
    | cons g' groups ih =>
      intro first
      obtain ⟨room, rfl⟩ : ∃ k, room = k + 1 :=
        Nat.exists_eq_succ_of_ne_zero (Nat.ne_of_gt (Nat.lt_of_lt_of_le (Nat.succ_pos _) hroom))
      have hothers := @ih room g' (Nat.le_of_succ_le_succ hroom) false
      have htext : writeGroups (g :: g' :: groups) ++ rest =
          writeGroup g ++ (lead false ++ (writeGroups (g' :: groups) ++ rest)) := by
        simp [writeGroups, lead]
      have hcolon : Stops goesOn (lead false ++ (writeGroups (g' :: groups) ++ rest)) :=
        stops_cons rfl _
      rw [htext, readGroups_writeGroup room first g hcolon, hothers]

/-! ### The gap -/

theorem leadingZeros_spec (groups : List UInt16) :
    groups = List.replicate (leadingZeros groups) 0 ++ groups.drop (leadingZeros groups) := by
  induction groups with
  | nil => rfl
  | cons g groups ih =>
    by_cases hzero : g = 0
    · have hmore : leadingZeros (g :: groups) = leadingZeros groups + 1 := by
        simp [leadingZeros, hzero]
      rw [hmore, List.replicate_succ, List.drop_succ_cons, List.cons_append, ← ih, hzero]
    · have hnone : leadingZeros (g :: groups) = 0 := by simp [leadingZeros, hzero]
      rw [hnone]
      rfl

/-- The longest run of zero groups consists of zero groups. -/
theorem longestZeros_spec (groups : List UInt16) :
    groups = groups.take (longestZeros groups).1 ++ (List.replicate (longestZeros groups).2 0 ++
      groups.drop ((longestZeros groups).1 + (longestZeros groups).2)) := by
  induction groups with
  | nil => rfl
  | cons g groups ih =>
    simp only [longestZeros]
    -- the run begins here, or it is the one of the groups behind the first
    by_cases hearly : (longestZeros groups).2 ≤ leadingZeros (g :: groups)
    · rw [if_pos hearly, List.take_zero, List.nil_append, Nat.zero_add]
      exact leadingZeros_spec (g :: groups)
    · rw [if_neg hearly, List.take_succ_cons, List.cons_append, Nat.add_right_comm,
        List.drop_succ_cons, ← ih]

/-! ### Whole addresses -/

/-- Characters that go on with an address. -/
def goesFurther (c : Char) : Bool := goesOn c || c == ':'

/-- The groups of an address that embeds another end with the two of the other. -/
theorem groups_of_mapped? {ip : Ip6} {embedded : Ip4} (h : ip.mapped? = some embedded) :
    ip.groups = List.replicate 5 0 ++ 0xFFFF :: groupsOfIp4 embedded := by
  unfold mapped? at h
  split at h
  case h_2 => cases h
  rename_i high low hgroups
  have hoctets : embedded.octets = [high, low].flatMap fun g => BigEndian.ofNat 2 g.toNat := by
    rw [octets, hgroups] at h
    exact Ip4.octets_of_ofOctets? h
  rw [hgroups, groupsOfIp4, hoctets, pairUp_flatMap]
  rfl

/-- An address is read in two runs if there is a gap between them. -/
theorem read_of_gap {text behind : List Char} {front : List UInt16} {tail : Run} {ip : Ip6}
    (hhead : readGroups 8 true text = ⟨front, false, gap ++ behind⟩) (hshort : front.length < 8)
    (htail : readGroups (7 - front.length) true behind = tail)
    (hip : ip.groups =
      front ++ List.replicate (8 - front.length - tail.groups.length) 0 ++ tail.groups) :
    read text = some (ip, tail.rest) := by
  have hwhole : ofGroups? ip.groups = some ip := dif_pos ip.length_groups
  subst htail
  simp only [read, hhead, gap, List.cons_append, List.nil_append]
  rw [if_neg (Nat.ne_of_lt hshort), if_neg Bool.false_ne_true, ← hip, hwhole]
  rfl

/-- **An IPv6 address is read back**, if nothing behind it goes on. -/
theorem read_write (ip : Ip6) {rest : List Char} (hrest : Stops goesFurther rest) :
    read (ip.write ++ rest) = some (ip, rest) := by
  have hgroup : Stops goesOn rest := hrest.mono fun c hc => by rw [goesFurther, hc, Bool.true_or]
  have hcolon : Stops (· == ':') rest := hrest.mono fun c hc => by
    rw [goesFurther, hc, Bool.or_true]
  have hdigit : Stops Char.isDigit rest := hgroup.mono fun c hc => by
    rw [goesOn, isHexDigit, hc, Bool.true_or, Bool.true_or, Bool.true_or]
  have hip : ofGroups? ip.groups = some ip := dif_pos ip.length_groups
  unfold write
  cases hmapped : ip.mapped? with
  | some embedded =>
    -- the gap comes first, then one group, and then the dotted address
    have hmark : mappedStart = gap ++ (writeGroup 0xFFFF ++ lead false) := by decide
    have hdotted : readGroups 7 true (writeGroup 0xFFFF ++ (lead false ++ (embedded.write ++ rest))) =
        ⟨0xFFFF :: groupsOfIp4 embedded, true, rest⟩ := by
      have hcolon : Stops goesOn (lead false ++ (embedded.write ++ rest)) := stops_cons rfl _
      have hmark := readGroups_writeGroup 6 true 0xFFFF hcolon
      rwa [readGroups_write_ip4 4 false embedded hdigit] at hmark
    dsimp only
    rw [hmark, List.append_assoc, List.append_assoc, List.append_assoc]
    exact read_of_gap (readGroups_of_stops (stops_cons rfl _) 8 true) (by decide) hdotted
      (groups_of_mapped? hmapped)
  | none =>
    dsimp only
    by_cases hrun : (longestZeros ip.groups).2 < 2
    · -- all eight groups are written
      have hall := readGroups_writeGroups (Nat.le_of_eq ip.length_groups) hgroup
        (readGroups_of_no_colon hcolon)
      rw [if_pos hrun]
      simp only [read, hall, ip.length_groups, if_true, hip, Option.map_some]
    · -- the groups before the gap, its zeros, and the groups behind it are all eight
      have hsplit := longestZeros_spec ip.groups
      have hlength := congrArg List.length hsplit
      simp only [List.length_append, List.length_take, List.length_drop, List.length_replicate,
        ip.length_groups] at hlength
      generalize (longestZeros ip.groups).1 = start at hsplit hlength ⊢
      generalize (longestZeros ip.groups).2 = count at hrun hsplit hlength ⊢
      have hfront : (ip.groups.take start).length = start := by
        rw [List.length_take, ip.length_groups]
        omega
      have hback : (ip.groups.drop (start + count)).length = 8 - (start + count) := by
        rw [List.length_drop, ip.length_groups]
      have hhead : readGroups 8 true (writeGroups (ip.groups.take start) ++
          (gap ++ (writeGroups (ip.groups.drop (start + count)) ++ rest))) =
          ⟨ip.groups.take start, false, _⟩ :=
        readGroups_writeGroups (by omega) (stops_cons rfl _)
          fun room => readGroups_of_stops (stops_cons rfl _) room false
      have htail : readGroups (7 - (ip.groups.take start).length) true
          (writeGroups (ip.groups.drop (start + count)) ++ rest) =
          ⟨ip.groups.drop (start + count), false, rest⟩ :=
        readGroups_writeGroups (by omega) hgroup (readGroups_of_no_colon hcolon)
      rw [if_neg hrun, List.append_assoc, List.append_assoc]
      refine read_of_gap hhead (by omega) htail ?_
      have hzeros : 8 - (ip.groups.take start).length -
          (ip.groups.drop (start + count)).length = count := by omega
      rw [hzeros, List.append_assoc]
      exact hsplit

/-! ### Colons -/

theorem suffix_skipColon {first : Bool} {text body : List Char}
    (h : skipColon first text = some body) :
    body <:+ text ∧ (first = false → text = ':' :: body) := by
  unfold skipColon at h
  split at h
  · rename_i hfirst
    cases h
    exact ⟨List.suffix_refl _, fun hother => absurd hfirst (by rw [hother]; decide)⟩
  · split at h <;> cases h
    exact ⟨List.suffix_cons _ _, fun _ => rfl⟩

theorem suffix_readGroup {text rest : List Char} {g : UInt16}
    (h : readGroup text = some (g, rest)) : rest <:+ text := by
  simp only [readGroup] at h
  split at h <;> cases h
  exact List.dropWhile_suffix _

/-- A run leaves the end of a text. If it is not the first and reads a group, it
has stepped over a colon. -/
theorem suffix_readGroups (room : Nat) (first : Bool) (text : List Char) :
    (readGroups room first text).rest <:+ text ∧
      (first = false → (readGroups room first text).groups ≠ [] →
        ∃ body, text = ':' :: body ∧ (readGroups room first text).rest <:+ body) := by
  induction room generalizing first text with
  | zero => exact ⟨List.suffix_refl _, fun _ h => absurd rfl h⟩
  | succ room ih =>
    simp only [readGroups]
    split
    · exact ⟨List.suffix_refl _, fun _ h => absurd rfl h⟩
    rename_i body hskip
    obtain ⟨hbody, hcolon⟩ := suffix_skipColon hskip
    -- what is left is the end of what stands behind the colon
    have hgoal : ∀ run : Run, run.rest <:+ body → run.rest <:+ text ∧
        (first = false → run.groups ≠ [] → ∃ body, text = ':' :: body ∧ run.rest <:+ body) :=
      fun run hrun => ⟨hrun.trans hbody, fun hfirst _ => ⟨body, hcolon hfirst, hrun⟩⟩
    split
    · rename_i ip rest hdotted
      refine hgoal ⟨groupsOfIp4 ip, true, rest⟩ ?_
      split at hdotted
      · cases hdotted
      · obtain ⟨rfl, _⟩ := Ip4.read_eq_some_iff.1 hdotted
        exact List.suffix_append _ _
    · split
      · exact ⟨List.suffix_refl _, fun _ h => absurd rfl h⟩
      · rename_i g rest hgroup
        exact hgoal ⟨_, _, _⟩ ((ih false rest).1.trans (suffix_readGroup hgroup))

/-- What is left of a text is its end. -/
theorem suffix_read {text rest : List Char} {ip : Ip6} (h : read text = some (ip, rest)) :
    rest <:+ text := by
  have hhead := (suffix_readGroups 8 true text).1
  simp only [read] at h
  split at h
  · obtain ⟨_, _, hpair⟩ := Option.map_eq_some_iff.1 h
    cases hpair
    exact hhead
  · split at h
    · cases h
    split at h
    · rename_i behind hgap
      obtain ⟨_, _, hpair⟩ := Option.map_eq_some_iff.1 h
      cases hpair
      rw [hgap] at hhead
      have htail := (suffix_readGroups (7 - (readGroups 8 true text).groups.length) true behind).1
      exact htail.trans ((List.suffix_append gap behind).trans hhead)
    · cases h

/-- So a run of more groups than a dotted address stands for has a colon in it. -/
theorem count_colon_readGroups_lt {room : Nat} {text : List Char}
    (h : 2 < (readGroups room true text).groups.length) :
    (readGroups room true text).rest.count ':' < text.count ':' := by
  cases room with
  | zero => exact absurd h (Nat.not_lt_zero 2)
  | succ room =>
    simp only [readGroups, skipColon, if_true] at h ⊢
    cases hdotted : (if room = 0 then none else Ip4.read text) with
    | some found =>
      rw [hdotted] at h
      exact absurd h (Nat.lt_irrefl 2)
    | none =>
      rw [hdotted] at h
      cases hgroup : readGroup text with
      | none =>
        simp only [hgroup] at h
        exact absurd h (by decide)
      | some found =>
        simp only [hgroup, List.length_cons] at h ⊢
        -- the first group has no colon in front of it, but one stands before the second
        have hmore : (readGroups room false found.2).groups ≠ [] := by
          intro hnil
          rw [hnil] at h
          exact absurd h (by decide)
        obtain ⟨body, hcolon, hbody⟩ := (suffix_readGroups room false found.2).2 rfl hmore
        have hfirst := (suffix_readGroup hgroup).sublist.count_le ':'
        have hothers := hbody.sublist.count_le ':'
        rw [hcolon, List.count_cons_self] at hfirst
        rw [hcolon] at hothers ⊢
        omega

/-- **Every IPv6 address holds a colon.** -/
theorem count_colon_read_lt {text rest : List Char} {ip : Ip6} (h : read text = some (ip, rest)) :
    rest.count ':' < text.count ':' := by
  have hsuffix := (suffix_readGroups 8 true text).1
  simp only [read] at h
  split at h
  · -- eight groups are more than one, and the second stands behind a colon
    rename_i height
    obtain ⟨_, _, hpair⟩ := Option.map_eq_some_iff.1 h
    cases hpair
    exact count_colon_readGroups_lt (by rw [height]; decide)
  · split at h
    · cases h
    split at h
    · rename_i behind hgap
      obtain ⟨_, _, hpair⟩ := Option.map_eq_some_iff.1 h
      cases hpair
      have htail := (suffix_readGroups (7 - (readGroups 8 true text).groups.length) true behind).1
      rw [hgap] at hsuffix
      have hhead := hsuffix.sublist.count_le ':'
      have hless := htail.sublist.count_le ':'
      rw [List.count_cons_self, List.count_cons_self] at hhead
      omega
    · cases h

end Ip6

/-! ## Endpoints -/

namespace Endpoint

/-- The flow information. -/
def flow : Endpoint → UInt32
  | ip4 _ _ => 0
  | ip6 _ _ flow _ => flow

/-- What ends a text is a colon and a port. -/
theorem readFinalPort_eq_some_iff {text : List Char} {port : UInt16} :
    readFinalPort text = some port ↔
      ∃ digits, text = ':' :: digits ∧ Decimal.read? 65535 digits = some port.toNat := by
  constructor
  · intro h
    unfold readFinalPort at h
    split at h
    · rename_i digits
      obtain ⟨n, hn, rfl⟩ := Option.map_eq_some_iff.1 h
      refine ⟨digits, rfl, ?_⟩
      rw [hn, UInt16.toNat_ofNat_of_lt' (Nat.lt_succ_of_le (Decimal.read?_le hn))]
    · cases h
  · rintro ⟨digits, rfl, hport⟩
    rw [readFinalPort, hport, Option.map_some, UInt16.ofNat_toNat]

theorem readFinalPort_writePort (port : UInt16) : readFinalPort (writePort port) = some port :=
  readFinalPort_eq_some_iff.2
    ⟨_, rfl, Decimal.read?_write (by have := port.toNat_lt; omega)⟩

theorem readScope_writeScope (scope : UInt32) (more : List Char) :
    readScope (writeScope scope ++ ']' :: more) = (scope, ']' :: more) := by
  have hlt := scope.toNat_lt
  by_cases hzero : scope = 0
  · rw [writeScope, if_pos hzero, hzero]
    rfl
  · have hdigits : ∀ c ∈ Decimal.write scope.toNat, c.isDigit :=
      fun _ => Decimal.isDigit_of_mem_write
    have hbracket : Stops Char.isDigit (']' :: more) := stops_cons rfl _
    rw [writeScope, if_neg hzero, List.cons_append, readScope, takeWhile_word hdigits hbracket,
      dropWhile_word hdigits hbracket, Decimal.read?_write (by omega)]
    dsimp only
    rw [UInt32.ofNat_toNat]

/-- A text is an IPv4 endpoint if it is an address, a colon and a port. -/
theorem parse4?_eq_some_iff {text : List Char} {e : Endpoint} : parse4? text = some e ↔
    ∃ ip port digits, text = ip.write ++ ':' :: digits ∧
      Decimal.read? 65535 digits = some port.toNat ∧ e = ip4 ip port := by
  constructor
  · intro h
    simp only [parse4?, Option.bind_eq_bind, Option.bind_eq_some_iff, Option.pure_def,
      Option.some.injEq] at h
    obtain ⟨⟨ip, rest⟩, hread, port, hport, rfl⟩ := h
    obtain ⟨rfl, _⟩ := Ip4.read_eq_some_iff.1 hread
    obtain ⟨digits, hrest, hdigits⟩ := readFinalPort_eq_some_iff.1 hport
    exact ⟨ip, port, digits, congrArg _ hrest, hdigits, rfl⟩
  · rintro ⟨ip, port, digits, rfl, hport, rfl⟩
    have hcolon : Stops Char.isDigit (':' :: digits) := stops_cons rfl _
    have hread : Ip4.read (ip.write ++ ':' :: digits) = some (ip, ':' :: digits) :=
      Ip4.read_eq_some_iff.2 ⟨rfl, hcolon⟩
    simp [parse4?, hread, readFinalPort, hport]

/-- An IPv6 endpoint is no IPv4 endpoint. -/
theorem parse4?_write_ip6 (ip : Ip6) (port : UInt16) (flow scope : UInt32) :
    parse4? (ip6 ip port flow scope).write = none := by
  have hbracket : Ip4.read (ip6 ip port flow scope).write = none :=
    Ip6.read_ip4_of_stops (stops_cons rfl _)
  simp [parse4?, hbracket]

/-- **An endpoint is read back**, up to its flow information. -/
theorem parse?_write {e : Endpoint} (hflow : e.flow = 0) : parse? e.write = some e := by
  cases e with
  | ip4 ip port =>
    have hport : Decimal.read? 65535 (Decimal.write port.toNat) = some port.toNat :=
      Decimal.read?_write (by have := port.toNat_lt; omega)
    have hparse : parse4? (ip4 ip port).write = some (ip4 ip port) :=
      parse4?_eq_some_iff.2 ⟨ip, port, _, rfl, hport, rfl⟩
    rw [parse?, hparse, Option.some_or]
  | ip6 ip port flow scope =>
    obtain rfl : flow = 0 := hflow
    -- the address ends at the percent sign, or at the bracket
    have hends : Stops Ip6.goesFurther (writeScope scope ++ ']' :: writePort port) := by
      unfold writeScope
      by_cases hzero : scope = 0
      · rw [if_pos hzero]
        exact stops_cons rfl _
      · rw [if_neg hzero]
        exact stops_cons rfl _
    have htext : (ip6 ip port 0 scope).write =
        '[' :: (ip.write ++ (writeScope scope ++ ']' :: writePort port)) := by
      simp [write]
    have hparse : parse6? (ip6 ip port 0 scope).write = some (ip6 ip port 0 scope) := by
      rw [htext, parse6?, Ip6.read_write ip hends]
      simp [readScope_writeScope, readFinalPort_writePort]
    rw [parse?, parse4?_write_ip6, Option.none_or, hparse]

theorem suffix_readScope (text : List Char) : (readScope text).2 <:+ text := by
  unfold readScope
  split
  · split
    · exact (List.dropWhile_suffix _).trans (List.suffix_cons _ _)
    · exact List.suffix_refl _
  · exact List.suffix_refl _

/-- An IPv6 endpoint has no flow information when it is read, and holds two colons
at least. -/
theorem parse6?_eq_some {text : List Char} {e : Endpoint} (h : parse6? text = some e) :
    e.flow = 0 ∧ 1 < text.count ':' := by
  unfold parse6? at h
  split at h
  case h_2 => cases h
  rename_i inner
  obtain ⟨⟨ip, behind⟩, hread, h⟩ := Option.bind_eq_some_iff.1 h
  dsimp only at h
  split at h
  case h_2 => cases h
  rename_i scope rest hscope
  obtain ⟨port, hport, h⟩ := Option.bind_eq_some_iff.1 h
  cases h
  refine ⟨rfl, ?_⟩
  -- one colon stands in the address, and one in front of the port
  have hport' : 0 < rest.count ':' := by
    obtain ⟨digits, rfl, _⟩ := readFinalPort_eq_some_iff.1 hport
    rw [List.count_cons_self]
    exact Nat.succ_pos _
  have hbehind := (suffix_readScope behind).sublist.count_le ':'
  have hinner := Ip6.count_colon_read_lt hread
  rw [hscope, List.count_cons_of_ne (by decide)] at hbehind
  rw [List.count_cons_of_ne (by decide)]
  omega

theorem flow_of_parse? {text : List Char} {e : Endpoint} (h : parse? text = some e) :
    e.flow = 0 := by
  rcases Option.or_eq_some_iff.1 h with h4 | ⟨_, h6⟩
  · obtain ⟨_, _, _, _, _, rfl⟩ := parse4?_eq_some_iff.1 h4
    rfl
  · exact (parse6?_eq_some h6).1

end Endpoint

end ProxyTunnel
