/-
Destinations are read as they are written, with one exception.

Two grammars read a destination: one for endpoints, and one for a name, a colon
and a port. A port of the second may have a plus sign, a port of the first may not.
So the text of an IPv4 address, a colon, a plus sign and a port is a name, and
what is written for it is an endpoint. `Destination.parse_text` says that nothing
else is read as anything but what it was written for.

A text with one colon is an IPv4 endpoint or none (`Endpoint.parse?_front`), since
an IPv6 endpoint has more. That is what keeps names and endpoints apart.
-/
import ProxyTunnel.Address.Destination
import ProxyTunnel.Proofs.Literals

set_option autoImplicit false

namespace ProxyTunnel

/-! ## Texts with a colon -/

section

variable {front front' behind behind' : List Char}

/-- Everything before a character, if it is the first one of its kind. -/
theorem takeWhile_ne {c : Char} (h : c ∉ front) (behind : List Char) :
    (front ++ c :: behind).takeWhile (· ≠ c) = front ∧
      (front ++ c :: behind).dropWhile (· ≠ c) = c :: behind := by
  have hfront : ∀ d ∈ front, decide (d ≠ c) = true := by
    intro d hd
    rw [decide_eq_true_eq]
    rintro rfl
    exact h hd
  have hstops : Stops (fun d => decide (d ≠ c)) (c :: behind) := stops_cons (by simp) _
  exact ⟨takeWhile_word hfront hstops, dropWhile_word hfront hstops⟩

/-- A text is split at its first colon in one way. -/
theorem append_colon_inj (h : ':' ∉ front) (h' : ':' ∉ front')
    (heq : front ++ ':' :: behind = front' ++ ':' :: behind') :
    front = front' ∧ behind = behind' := by
  obtain ⟨htake, hdrop⟩ := takeWhile_ne h behind
  obtain ⟨htake', hdrop'⟩ := takeWhile_ne h' behind'
  rw [heq, htake'] at htake
  rw [heq, hdrop'] at hdrop
  exact ⟨htake.symm, (List.cons.inj hdrop).2.symm⟩

/-- And at its last colon in one way. -/
theorem append_last_colon_inj (h : ':' ∉ behind) (h' : ':' ∉ behind')
    (heq : front ++ ':' :: behind = front' ++ ':' :: behind') :
    front = front' ∧ behind = behind' := by
  -- read from its end, the last colon is the first one
  have hreverse : behind.reverse ++ ':' :: front.reverse =
      behind'.reverse ++ ':' :: front'.reverse := by
    simpa using congrArg List.reverse heq
  obtain ⟨hbehind, hfront⟩ := append_colon_inj (by simpa using h) (by simpa using h') hreverse
  exact ⟨List.reverse_inj.1 hfront, List.reverse_inj.1 hbehind⟩

end

/-- A numeral is read with or without a sign. -/
theorem Decimal.readSigned?_write {limit n : Nat} (h : n ≤ limit) :
    readSigned? limit (write n) = some n :=
  readSigned?_eq_some_iff.2 (.inl (read?_write h))

/-- What is read as a number has no colon in it. -/
theorem Decimal.colon_notMem_of_readSigned? {limit n : Nat} {text : List Char}
    (h : readSigned? limit text = some n) : ':' ∉ text := by
  rcases readSigned?_eq_some_iff.1 h with hread | ⟨digits, rfl, hread⟩
  · exact fun hmem => read?_of_mem rfl hmem hread
  · rw [List.mem_cons, not_or]
    exact ⟨by decide, fun hmem => read?_of_mem rfl hmem hread⟩

theorem Ip4.colon_notMem_write (ip : Ip4) : ':' ∉ ip.write := by
  simp [write, writeOctet, Decimal.colon_notMem_write]

theorem Ip4.write_ne_nil (ip : Ip4) : ip.write ≠ [] := by
  simp [write]

/-- A text without a colon before and behind one is an IPv4 endpoint or none. -/
theorem Endpoint.parse?_front {front digits : List Char} (hfront : ':' ∉ front)
    (hdigits : ':' ∉ digits) {e : Endpoint} : parse? (front ++ ':' :: digits) = some e ↔
      ∃ ip port, front = ip.write ∧ Decimal.read? 65535 digits = some port.toNat ∧
        e = ip4 ip port := by
  constructor
  · intro h
    rcases Option.or_eq_some_iff.1 h with h4 | ⟨_, h6⟩
    · obtain ⟨ip, port, digits', htext, hport, rfl⟩ := parse4?_eq_some_iff.1 h4
      obtain ⟨rfl, rfl⟩ := append_colon_inj hfront ip.colon_notMem_write htext
      exact ⟨ip, port, rfl, hport, rfl⟩
    · -- there are not enough colons for an IPv6 endpoint
      have hcolons := (parse6?_eq_some h6).2
      rw [List.count_append, List.count_cons_self, List.count_eq_zero.2 hfront,
        List.count_eq_zero.2 hdigits] at hcolons
      omega
  · rintro ⟨ip, port, rfl, hport, rfl⟩
    have h4 : parse4? (ip.write ++ ':' :: digits) = some (ip4 ip port) :=
      parse4?_eq_some_iff.2 ⟨ip, port, digits, rfl, hport, rfl⟩
    rw [parse?, h4, Option.some_or]

namespace Destination

/-! ## Names and ports -/

theorem readPort?_eq_some_iff {text : List Char} {port : UInt16} :
    readPort? text = some port ↔ Decimal.readSigned? 65535 text = some port.toNat := by
  have hlt := port.toNat_lt
  constructor
  · intro h
    obtain ⟨n, hn, rfl⟩ := Option.map_eq_some_iff.1 h
    have hle : n ≤ 65535 := by
      rcases Decimal.readSigned?_eq_some_iff.1 hn with hread | ⟨_, _, hread⟩
      · exact Decimal.read?_le hread
      · exact Decimal.read?_le hread
    rw [hn, UInt16.toNat_ofNat_of_lt' (Nat.lt_succ_of_le hle)]
  · intro h
    rw [readPort?, h, Option.map_some, UInt16.ofNat_toNat]

/-- A text is a name if it holds one colon with something before it and a port
behind it. -/
theorem parseNamed?_eq_some_iff {text : List Char} {a : Destination} :
    parseNamed? text = some a ↔ ∃ host port digits, host ≠ [] ∧ ':' ∉ host ∧
      text = host ++ ':' :: digits ∧ Decimal.readSigned? 65535 digits = some port.toNat ∧
        a = named (String.ofList host) port := by
  constructor
  · intro h
    unfold parseNamed? at h
    split at h
    · rename_i c name digits hhost hrest
      obtain ⟨port, hport, rfl⟩ := Option.map_eq_some_iff.1 h
      refine ⟨c :: name, port, digits, List.cons_ne_nil _ _, ?_, ?_,
        readPort?_eq_some_iff.1 hport, rfl⟩
      · intro hmem
        rw [← hhost] at hmem
        have hall := List.all_eq_true.1 (List.all_takeWhile (p := (· ≠ ':')) (l := text)) _ hmem
        simp at hall
      · rw [← hhost, ← hrest, List.takeWhile_append_dropWhile]
    · cases h
  · rintro ⟨host, port, digits, hne, hhost, rfl, hport, rfl⟩
    obtain ⟨htake, hdrop⟩ := takeWhile_ne hhost digits
    obtain ⟨c, name, rfl⟩ := List.exists_cons_of_ne_nil hne
    unfold parseNamed?
    rw [htake, hdrop]
    exact congrArg (Option.map (named _)) (readPort?_eq_some_iff.2 hport)

theorem parse_eq_ok_iff {text : String} {a : Destination} :
    parse text = .ok a ↔ ofChars? text.toList = some a := by
  unfold parse
  cases ofChars? text.toList with
  | none => exact iff_of_false nofun nofun
  | some b => rw [Except.ok.injEq, Option.some.injEq]

/-- What is read is an endpoint, or a name before the only colon of a text that is
none. -/
theorem parse_cases {text : String} {a : Destination} (h : parse text = .ok a) :
    (∃ e, Endpoint.parse? text.toList = some e ∧ a = ip e) ∨
    ∃ host port digits, host ≠ [] ∧ ':' ∉ host ∧ text.toList = host ++ ':' :: digits ∧
      Decimal.readSigned? 65535 digits = some port.toNat ∧
        Endpoint.parse? text.toList = none ∧ a = named (String.ofList host) port := by
  rcases Option.or_eq_some_iff.1 (parse_eq_ok_iff.1 h) with hip | ⟨hnone, hname⟩
  · obtain ⟨e, he, rfl⟩ := Option.map_eq_some_iff.1 hip
    exact .inl ⟨e, he, rfl⟩
  · obtain ⟨host, port, digits, hne, hhost, htext, hport, rfl⟩ := parseNamed?_eq_some_iff.1 hname
    exact .inr ⟨host, port, digits, hne, hhost, htext, hport, Option.map_eq_none_iff.1 hnone, rfl⟩

/-! ## Written and read again -/

/-- An endpoint is read back. -/
theorem parse_text_ip {e : Endpoint} (hflow : e.flow = 0) : parse (ip e).text = .ok (ip e) := by
  rw [parse_eq_ok_iff, text, write, String.toList_ofList, ofChars?, Endpoint.parse?_write hflow]
  rfl

/-- A name that is an IPv4 address is read as an endpoint. -/
theorem parse_text_literal (ip : Ip4) (port : UInt16) :
    parse (named ip.text port).text = .ok (.ip (.ip4 ip port)) := by
  have htext : (named ip.text port).text = (Destination.ip (.ip4 ip port)).text := by
    rw [text, text, write, write, Ip4.text, String.toList_ofList]
    rfl
  rw [htext]
  exact parse_text_ip rfl

/-- Any other name is read back. -/
theorem parse_text_named {host : String} {port : UInt16} (hne : host ≠ "")
    (hcolon : ':' ∉ host.toList) (hip : ∀ ip : Ip4, host ≠ ip.text) :
    parse (named host port).text = .ok (named host port) := by
  have hdigits := Decimal.colon_notMem_write port.toNat
  have hnone : Endpoint.parse? (host.toList ++ ':' :: Decimal.write port.toNat) = none := by
    cases hparse : Endpoint.parse? (host.toList ++ ':' :: Decimal.write port.toNat) with
    | none => rfl
    | some e =>
      obtain ⟨ip, _, hhost, _⟩ := (Endpoint.parse?_front hcolon hdigits).1 hparse
      exact absurd (by rw [Ip4.text, ← hhost, String.ofList_toList]) (hip ip)
  have hport : Decimal.readSigned? 65535 (Decimal.write port.toNat) = some port.toNat :=
    Decimal.readSigned?_write (by have := port.toNat_lt; omega)
  have hname : parseNamed? (host.toList ++ ':' :: Decimal.write port.toNat) =
      some (named host port) := by
    refine parseNamed?_eq_some_iff.2 ⟨host.toList, port, _, ?_, hcolon, rfl, hport, ?_⟩
    · rw [ne_eq, String.toList_eq_nil_iff]
      exact hne
    · rw [String.ofList_toList]
  rw [parse_eq_ok_iff, text, write, String.toList_ofList, Endpoint.writePort, ofChars?, hnone,
    hname]
  rfl

/-- A text is an IPv4 address, a colon, a plus sign and a port. -/
def HasPlus (text : String) (ip : Ip4) (port : UInt16) : Prop :=
  ∃ digits, text.toList = ip.write ++ ':' :: '+' :: digits ∧
    Decimal.read? 65535 digits = some port.toNat

/-- **An IP address is read as a name only if its port has a plus sign.** -/
theorem parse_eq_literal_iff (text : String) (ip : Ip4) (port : UInt16) :
    parse text = .ok (named ip.text port) ↔ HasPlus text ip port := by
  constructor
  · intro h
    rcases parse_cases h with ⟨_, _, hname⟩ | ⟨host, _, digits, _, hhost, htext, hport, hnone, hname⟩
    · cases hname
    obtain ⟨hip, rfl⟩ := Destination.named.inj hname
    rw [Ip4.text, String.ofList_inj] at hip
    subst hip
    rcases Decimal.readSigned?_eq_some_iff.1 hport with hplain | ⟨digits, rfl, hplus⟩
    · -- without a plus sign it would be an endpoint
      have hdigits : ':' ∉ digits := fun hmem => Decimal.read?_of_mem rfl hmem hplain
      have hip : Endpoint.parse? text.toList = some (.ip4 ip port) := by
        rw [htext]
        exact (Endpoint.parse?_front hhost hdigits).2
          ⟨ip, port, rfl, hplain, rfl⟩
      rw [hnone] at hip
      cases hip
    · exact ⟨digits, htext, hplus⟩
  · rintro ⟨digits, htext, hport⟩
    have hcolon := ip.colon_notMem_write
    -- the sign is taken for a part of the port by one grammar, and by the other not
    have hsigned : Decimal.readSigned? 65535 ('+' :: digits) = some port.toNat :=
      Decimal.readSigned?_eq_some_iff.2 (.inr ⟨digits, rfl, hport⟩)
    have hdigits := Decimal.colon_notMem_of_readSigned? hsigned
    have hnone : Endpoint.parse? (ip.write ++ ':' :: '+' :: digits) = none := by
      cases hparse : Endpoint.parse? (ip.write ++ ':' :: '+' :: digits) with
      | none => rfl
      | some e =>
        obtain ⟨_, _, _, hread, _⟩ := (Endpoint.parse?_front hcolon hdigits).1 hparse
        exact absurd hread (Decimal.read?_of_mem rfl List.mem_cons_self)
    have hname : parseNamed? (ip.write ++ ':' :: '+' :: digits) = some (named ip.text port) :=
      parseNamed?_eq_some_iff.2 ⟨ip.write, port, _, ip.write_ne_nil, hcolon, rfl, hsigned, rfl⟩
    rw [parse_eq_ok_iff, htext, ofChars?, hnone, hname]
    rfl

/-- **Destinations are read as they are written, but for IPv4 addresses that were
read as names**:

* what is read from a text is read again from its own, unless it is a name that is
  an IPv4 address;
* such a name is read exactly from the address, a colon, a plus sign and a port;
  what is written for it is read as the endpoint;
* every endpoint without flow information is read from its text, and so is every
  name that is not empty, holds no colon and is no IPv4 address. -/
theorem parse_text (text : String) (a : Destination) :
    (parse text = .ok a →
      (parse a.text = .ok a ↔ ∀ (ip : Ip4) (port : UInt16), a ≠ named ip.text port)) ∧
    (∀ ip port, parse text = .ok (named ip.text port) ↔ HasPlus text ip port) ∧
    (∀ (ip : Ip4) (port : UInt16),
      parse (named ip.text port).text = .ok (.ip (.ip4 ip port))) ∧
    (∀ e : Endpoint, e.flow = 0 → parse (ip e).text = .ok (ip e)) ∧
    ∀ host port, host ≠ "" → ':' ∉ host.toList → (∀ ip : Ip4, host ≠ ip.text) →
      parse (named host port).text = .ok (named host port) := by
  refine ⟨fun h => ?_, parse_eq_literal_iff text, parse_text_literal, fun _ => parse_text_ip,
    fun _ _ => parse_text_named⟩
  constructor
  · rintro hagain ip port rfl
    rw [parse_text_literal] at hagain
    cases hagain
  · intro hip
    rcases parse_cases h with ⟨e, he, rfl⟩ | ⟨host, port, _, hne, hhost, _, _, _, rfl⟩
    · exact parse_text_ip (Endpoint.flow_of_parse? he)
    · refine parse_text_named ?_ (by rwa [String.toList_ofList]) fun ip hname => ?_
      · rwa [ne_eq, ← String.toList_eq_nil_iff, String.toList_ofList]
      · exact hip ip port (by rw [hname])

/-- An address with a plus sign before its port is a name, and an endpoint the
second time. -/
theorem parse_text_changes :
    parse "10.0.0.1:+80" = .ok (named "10.0.0.1" 80) ∧
      parse (named "10.0.0.1" 80).text = .ok (ip (.ip4 ⟨10, 0, 0, 1⟩ 80)) :=
  ⟨rfl, rfl⟩

end Destination

end ProxyTunnel
