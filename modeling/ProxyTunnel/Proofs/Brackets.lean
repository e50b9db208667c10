/-
What stands in brackets.

The readers of addresses look no further than to the first character that cannot
go on with an address. Such a character hides what stands behind it: the text
before it is read as if it ended there, and all the rest is left (`StopsBefore`).
A closing bracket is one, and so is the percent sign in front of a scope.

So an IPv6 endpoint is a text in brackets that is an address with a scope or
without one (`SpellsIp6`), a colon and a port, and there is no bracket within
(`Endpoint.parse6?_eq_some_iff`). Texts in brackets that spell no address are no
endpoints. They may be names, if no colon is among them
(`Destination.ofChars?_eq_some_iff`).
-/
import ProxyTunnel.Proofs.Destinations

set_option autoImplicit false

namespace ProxyTunnel

/-! ## Readers that stop before a character -/

/-- A text that goes on with `c` is read as if it ended there. -/
def StopsBefore {α : Type} (c : Char) (read : List Char → Option (α × List Char)) : Prop :=
  ∀ text more, read (text ++ c :: more) = (read text).map fun p => (p.1, p.2 ++ c :: more)

section

variable {α β : Type} {c : Char} {read : List Char → Option (α × List Char)}

theorem StopsBefore.bind {next : α → List Char → Option (β × List Char)} (h : StopsBefore c read)
    (hnext : ∀ a, StopsBefore c (next a)) :
    StopsBefore c fun text => (read text).bind fun p => next p.1 p.2 := by
  intro text more
  simp only [h text more]
  cases read text with
  | none => rfl
  | some p => exact hnext p.1 p.2 more

/-- The character is left wherever it stands. -/
theorem StopsBefore.mem_rest (h : StopsBefore c read) {text rest : List Char} {a : α}
    (hread : read text = some (a, rest)) (hmem : c ∈ text) : c ∈ rest := by
  obtain ⟨front, more, rfl, _⟩ := List.eq_append_cons_of_mem hmem
  rw [h front more] at hread
  obtain ⟨p, _, hp⟩ := Option.map_eq_some_iff.1 hread
  cases hp
  simp

theorem takeWhile_before {p : Char → Bool} (h : p c = false) (text more : List Char) :
    (text ++ c :: more).takeWhile p = text.takeWhile p ∧
      (text ++ c :: more).dropWhile p = text.dropWhile p ++ c :: more := by
  induction text with
  | nil => simp [h]
  | cons d text ih =>
    by_cases hd : p d = true
    · simp [hd, ih]
    · simp [hd]

end

/-! ## Addresses -/

namespace Ip4

theorem stopsBefore_readOctet {c : Char} (hc : c.isDigit = false) : StopsBefore c readOctet := by
  intro text more
  obtain ⟨htake, hdrop⟩ := takeWhile_before hc text more
  simp only [readOctet, htake, hdrop]
  split
  · rfl
  · rw [Option.map_map]
    rfl

theorem stopsBefore_readDottedOctet {c : Char} (hc : c.isDigit = false) (hdot : c ≠ '.') :
    StopsBefore c readDottedOctet := by
  intro text more
  cases text with
  | nil => simp [readDottedOctet, hdot]
  | cons d text =>
    by_cases hd : d = '.'
    · subst hd
      exact stopsBefore_readOctet hc text more
    · simp [readDottedOctet, hd]

/-- One octet after the other, and so the address. -/
theorem stopsBefore_read {c : Char} (hc : c.isDigit = false) (hdot : c ≠ '.') :
    StopsBefore c read := by
  have hdotted := stopsBefore_readDottedOctet hc hdot
  have hlast : ∀ a b c' d, StopsBefore c fun text => some ((⟨a, b, c', d⟩ : Ip4), text) :=
    fun _ _ _ _ _ _ => rfl
  exact (stopsBefore_readOctet hc).bind fun a => hdotted.bind fun b => hdotted.bind fun c' =>
    hdotted.bind (hlast a b c')

end Ip4

namespace Ip6

variable {c : Char}

theorem stopsBefore_readGroup (hc : isHexDigit c = false) : StopsBefore c readGroup := by
  intro text more
  obtain ⟨htake, hdrop⟩ := takeWhile_before hc text more
  simp only [readGroup, htake, hdrop]
  split
  · rfl
  · rfl

theorem skipColon_before (hc : c ≠ ':') (first : Bool) (text more : List Char) :
    skipColon first (text ++ c :: more) = (skipColon first text).map (· ++ c :: more) := by
  cases first with
  | true => rfl
  | false =>
    cases text with
    | nil => simp [skipColon, hc]
    | cons d text =>
      by_cases hd : d = ':'
      · subst hd
        rfl
      · simp [skipColon, hd]

/-- A character that goes on with no address is no digit and no sign of one. -/
theorem not_goesFurther (hc : goesFurther c = false) :
    isHexDigit c = false ∧ c.isDigit = false ∧ c ≠ '.' ∧ c ≠ ':' := by
  simp only [goesFurther, goesOn, Bool.or_eq_false_iff, beq_eq_false_iff_ne] at hc
  obtain ⟨⟨hhex, hdot⟩, hcolon⟩ := hc
  refine ⟨hhex, ?_, hdot, hcolon⟩
  simp only [isHexDigit, Bool.or_eq_false_iff] at hhex
  exact hhex.1.1

/-- A run of groups ends before such a character. -/
theorem readGroups_before (hc : goesFurther c = false) (more : List Char) (room : Nat)
    (first : Bool) (text : List Char) :
    readGroups room first (text ++ c :: more) =
      ⟨(readGroups room first text).groups, (readGroups room first text).dotted,
        (readGroups room first text).rest ++ c :: more⟩ := by
  obtain ⟨hhex, hdigit, hdot, hcolon⟩ := not_goesFurther hc
  induction room generalizing first text with
  | zero => rfl
  | succ room ih =>
    simp only [readGroups, skipColon_before hcolon]
    cases skipColon first text with
    | none => rfl
    | some body =>
      have hdotted : (if room = 0 then none else Ip4.read (body ++ c :: more)) =
          (if room = 0 then none else Ip4.read body).map fun p => (p.1, p.2 ++ c :: more) := by
        split
        · rfl
        · exact Ip4.stopsBefore_read hdigit hdot body more
      simp only [Option.map_some, hdotted, stopsBefore_readGroup hhex body more]
      cases if room = 0 then none else Ip4.read body with
      | some p => rfl
      | none =>
        cases readGroup body with
        | none => rfl
        | some p => simp only [Option.map_none, Option.map_some, ih]

theorem stopsBefore_read (hc : goesFurther c = false) : StopsBefore c read := by
  intro text more
  have hcolon := (not_goesFurther hc).2.2.2
  simp only [read, readGroups_before hc more]
  generalize readGroups 8 true text = head
  split
  · cases ofGroups? head.groups <;> rfl
  split
  · rfl
  -- a gap is two colons, and `c` is none
  rcases head.rest with _ | ⟨x, _ | ⟨y, behind⟩⟩
  · simp [hcolon]
  · by_cases hx : x = ':' <;> simp [hx, hcolon]
  · by_cases hgap : x = ':' ∧ y = ':'
    · obtain ⟨rfl, rfl⟩ := hgap
      simp only [List.cons_append, readGroups_before hc more, Option.map_map]
      rfl
    · rw [List.cons_append, List.cons_append]
      split
      · rename_i heq
        cases heq
        exact absurd ⟨rfl, rfl⟩ hgap
      · split
        · rename_i heq
          cases heq
          exact absurd ⟨rfl, rfl⟩ hgap
        · rfl

/-- An address with such a character in it is only a part of the text. -/
theorem read_ne_of_mem {text : List Char} (hc : goesFurther c = false) (hmem : c ∈ text)
    (ip : Ip6) : read text ≠ some (ip, []) := by
  intro hread
  exact absurd ((stopsBefore_read hc).mem_rest hread hmem) List.not_mem_nil

end Ip6

/-! ## Endpoints in brackets -/

namespace Endpoint

theorem readScope_before {c : Char} (hc : c.isDigit = false) (hpercent : c ≠ '%')
    (text more : List Char) :
    readScope (text ++ c :: more) = ((readScope text).1, (readScope text).2 ++ c :: more) := by
  cases text with
  | nil => simp [readScope, hpercent]
  | cons d text =>
    by_cases hd : d = '%'
    · subst hd
      obtain ⟨htake, hdrop⟩ := takeWhile_before hc text more
      simp only [List.cons_append, readScope, htake, hdrop]
      cases Decimal.read? 4294967295 (text.takeWhile Char.isDigit) <;> rfl
    · simp [readScope, hd]

/-- A text is an IPv6 address with its scope, which is zero if none is given. -/
def SpellsIp6 (text : List Char) (ip : Ip6) (scope : UInt32) : Prop :=
  ∃ rest, Ip6.read text = some (ip, rest) ∧ readScope rest = (scope, [])

namespace SpellsIp6

variable {text : List Char} {ip : Ip6} {scope : UInt32}

/-- There is no character in it but those of addresses and scopes. -/
theorem notMem {c : Char} (h : SpellsIp6 text ip scope) (hc : Ip6.goesFurther c = false)
    (hpercent : c ≠ '%') : c ∉ text := by
  intro hmem
  obtain ⟨rest, hread, hscope⟩ := h
  have hrest := (Ip6.stopsBefore_read hc).mem_rest hread hmem
  obtain ⟨front, more, rfl, _⟩ := List.eq_append_cons_of_mem hrest
  rw [readScope_before (Ip6.not_goesFurther hc).2.1 hpercent] at hscope
  simp at hscope

/-- There is a colon in it. -/
theorem colon_mem (h : SpellsIp6 text ip scope) : ':' ∈ text := by
  obtain ⟨rest, hread, _⟩ := h
  exact List.count_pos_iff.1 (Nat.zero_lt_of_lt (Ip6.count_colon_read_lt hread))

/-- Without a percent sign it is an address and nothing else. -/
theorem read_of_notMem (h : SpellsIp6 text ip scope) (hpercent : '%' ∉ text) :
    Ip6.read text = some (ip, []) ∧ scope = 0 := by
  obtain ⟨rest, hread, hscope⟩ := h
  unfold readScope at hscope
  split at hscope
  · exact absurd ((Ip6.suffix_read hread).subset List.mem_cons_self) hpercent
  · cases hscope
    exact ⟨hread, rfl⟩

end SpellsIp6

/-- **An IPv6 endpoint is an address in brackets, a colon and a port.** -/
theorem parse6?_eq_some_iff {text : List Char} {e : Endpoint} : parse6? text = some e ↔
    ∃ inside digits ip port scope, text = '[' :: (inside ++ ']' :: ':' :: digits) ∧
      SpellsIp6 inside ip scope ∧ Decimal.read? 65535 digits = some port.toNat ∧
        e = ip6 ip port 0 scope := by
  have hstops : StopsBefore ']' Ip6.read := Ip6.stopsBefore_read rfl
  have hscopes := @readScope_before ']' rfl (by decide)
  constructor
  · intro h
    unfold parse6? at h
    split at h
    case h_2 => cases h
    rename_i inner
    obtain ⟨⟨ip, behind⟩, hread, h⟩ := Option.bind_eq_some_iff.1 h
    dsimp only at h
    split at h
    case h_2 => cases h
    rename_i scope final hscope
    obtain ⟨port, hport, h⟩ := Option.bind_eq_some_iff.1 h
    cases h
    obtain ⟨digits, rfl, hdigits⟩ := readFinalPort_eq_some_iff.1 hport
    -- the bracket that ends the scope is the first one there is
    have hmem : ']' ∈ inner := by
      have hbehind := suffix_readScope behind
      rw [hscope] at hbehind
      exact (Ip6.suffix_read hread).subset (hbehind.subset List.mem_cons_self)
    obtain ⟨inside, more, rfl, hfirst⟩ := List.eq_append_cons_of_mem hmem
    rw [hstops inside more] at hread
    obtain ⟨⟨ip', rest⟩, hinside, hpair⟩ := Option.map_eq_some_iff.1 hread
    cases hpair
    rw [hscopes rest more] at hscope
    obtain ⟨hvalue, htail⟩ := Prod.mk.inj hscope
    have hnil : (readScope rest).2 = [] := by
      rcases hrest : (readScope rest).2 with _ | ⟨c, left⟩
      · rfl
      · rw [hrest] at htail
        obtain ⟨rfl, _⟩ := List.cons.inj htail
        have hsuffix := suffix_readScope rest
        rw [hrest] at hsuffix
        exact absurd ((Ip6.suffix_read hinside).subset (hsuffix.subset List.mem_cons_self)) hfirst
    rw [hnil, List.nil_append] at htail
    obtain ⟨_, rfl⟩ := List.cons.inj htail
    have hspells : SpellsIp6 inside ip' scope := ⟨rest, hinside, Prod.ext hvalue hnil⟩
    exact ⟨inside, digits, ip', port, scope, rfl, hspells, hdigits, rfl⟩
  · rintro ⟨inside, digits, ip, port, scope, rfl, ⟨rest, hread, hscope⟩, hport, rfl⟩
    have hbracket := hscopes rest (':' :: digits)
    rw [hscope] at hbracket
    have hfinal : readFinalPort (':' :: digits) = some port :=
      readFinalPort_eq_some_iff.2 ⟨digits, rfl, hport⟩
    rw [parse6?, hstops inside, hread]
    simp [hbracket, hfinal]

/-- What begins with a bracket is an IPv6 endpoint or none. -/
theorem parse?_bracket (text : List Char) : parse? ('[' :: text) = parse6? ('[' :: text) := by
  have hread : Ip4.read ('[' :: text) = none := Ip6.read_ip4_of_stops (stops_cons rfl text)
  simp [parse?, parse4?, hread]

end Endpoint

/-! ## A host with a port -/

namespace Destination

/-- What the text of a host means in front of a colon and a port. -/
inductive Denotes : List Char → UInt16 → Destination → Prop where
  | ip4 (ip4 : Ip4) (port : UInt16) : Denotes ip4.write port (ip (.ip4 ip4 port))
  | ip6 {inside : List Char} {ip6 : Ip6} {scope : UInt32}
      (h : Endpoint.SpellsIp6 inside ip6 scope) (port : UInt16) :
      Denotes ('[' :: (inside ++ [']'])) port (ip (.ip6 ip6 port 0 scope))
  | name {host : List Char} (hne : host ≠ []) (hcolon : ':' ∉ host)
      (hip4 : ∀ ip4 : Ip4, host ≠ ip4.write) (port : UInt16) :
      Denotes host port (named (String.ofList host) port)

variable {host digits : List Char} {a : Destination}

theorem readSigned?_of_notMem (hplus : '+' ∉ digits) {limit n : Nat} :
    Decimal.readSigned? limit digits = some n ↔ Decimal.read? limit digits = some n := by
  rw [Decimal.readSigned?_eq_some_iff, or_iff_left_iff_imp]
  rintro ⟨_, rfl, _⟩
  exact absurd List.mem_cons_self hplus

/-- **A text is read as its host means**, if what stands behind its last colon is a
port without a sign. -/
theorem ofChars?_eq_some_iff (hcolon : ':' ∉ digits) (hplus : '+' ∉ digits) :
    ofChars? (host ++ ':' :: digits) = some a ↔
      ∃ port, Decimal.read? 65535 digits = some port.toNat ∧ Denotes host port a := by
  have hlast : ∀ {front behind : List Char} {port : UInt16},
      host ++ ':' :: digits = front ++ ':' :: behind →
      Decimal.readSigned? 65535 behind = some port.toNat →
      host = front ∧ Decimal.read? 65535 digits = some port.toNat := by
    intro front behind port htext hread
    obtain ⟨hhost, rfl⟩ :=
      append_last_colon_inj hcolon (Decimal.colon_notMem_of_readSigned? hread) htext
    exact ⟨hhost, (readSigned?_of_notMem hplus).1 hread⟩
  have hsigned : ∀ {text : List Char} {n : Nat}, Decimal.read? 65535 text = some n →
      Decimal.readSigned? 65535 text = some n := fun h => Decimal.readSigned?_eq_some_iff.2 (.inl h)
  constructor
  · intro h
    rcases Option.or_eq_some_iff.1 h with hip | ⟨hnone, hname⟩
    · obtain ⟨e, he, rfl⟩ := Option.map_eq_some_iff.1 hip
      rcases Option.or_eq_some_iff.1 he with h4 | ⟨_, h6⟩
      · obtain ⟨ip4, port, behind, htext, hread, rfl⟩ := Endpoint.parse4?_eq_some_iff.1 h4
        obtain ⟨rfl, hport⟩ := hlast htext (hsigned hread)
        exact ⟨port, hport, .ip4 ip4 port⟩
      · obtain ⟨inside, behind, ip6, port, scope, htext, hspells, hread, rfl⟩ :=
          Endpoint.parse6?_eq_some_iff.1 h6
        have hfront : '[' :: (inside ++ ']' :: ':' :: behind) =
            '[' :: (inside ++ [']']) ++ ':' :: behind := by simp
        obtain ⟨rfl, hport⟩ := hlast (htext.trans hfront) (hsigned hread)
        exact ⟨port, hport, .ip6 hspells port⟩
    · obtain ⟨front, port, behind, hne, hfront, htext, hread, rfl⟩ :=
        parseNamed?_eq_some_iff.1 hname
      obtain ⟨rfl, hport⟩ := hlast htext hread
      refine ⟨port, hport, .name hne hfront ?_ port⟩
      rintro ip4 rfl
      -- an address would have been read as an endpoint
      rw [Option.map_eq_none_iff] at hnone
      have h4 := (Endpoint.parse?_front hfront hcolon).2 ⟨ip4, port, rfl, hport, rfl⟩
      rw [hnone] at h4
      cases h4
  · rintro ⟨port, hport, hdenotes⟩
    cases hdenotes with
    | ip4 ip4 =>
      have h4 := (Endpoint.parse?_front ip4.colon_notMem_write hcolon).2
        ⟨ip4, port, rfl, hport, rfl⟩
      rw [ofChars?, h4]
      rfl
    | @ip6 inside ip6 scope hspells =>
      have h6 : Endpoint.parse? ('[' :: (inside ++ ']' :: ':' :: digits)) =
          some (.ip6 ip6 port 0 scope) := by
        rw [Endpoint.parse?_bracket, Endpoint.parse6?_eq_some_iff]
        exact ⟨inside, digits, ip6, port, scope, rfl, hspells, hport, rfl⟩
      simp [ofChars?, h6]
    | name hne hhost hip4 =>
      have hnone : Endpoint.parse? (host ++ ':' :: digits) = none := by
        cases he : Endpoint.parse? (host ++ ':' :: digits) with
        | none => rfl
        | some e =>
          obtain ⟨ip4, _, rfl, _⟩ := (Endpoint.parse?_front hhost hcolon).1 he
          exact absurd rfl (hip4 ip4)
      have hname := parseNamed?_eq_some_iff.2
        ⟨host, port, digits, hne, hhost, rfl, hsigned hport, rfl⟩
      rw [ofChars?, hnone, hname]
      rfl

end Destination

end ProxyTunnel
