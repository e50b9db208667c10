/-
A destination given as one text, and as a host and a port.

The text of a host, a colon and a port may be read as a whole, or the host and the
port may be given on their own. The two agree on which destination is meant, with
two exceptions (`Destination.ofHost_agrees_but_for_brackets`). Both come from the
brackets, which a whole text keeps and a host loses before it is looked at:

* a scope stands within the brackets of an endpoint, and a bare address has none.
  So an IPv6 address with a scope is an endpoint in a whole text, and a name with
  brackets as a host;
* brackets are for IPv6 in an endpoint, and for anything in a host. So an IPv4
  address with a bracket before or behind it is a name in a whole text, and an
  address as a host.

The proof goes through what a whole text can be: an IPv4 endpoint, an IPv6 endpoint,
or a name. In each case the last colon is the one in front of the port.
-/
import ProxyTunnel.Proofs.Brackets

set_option autoImplicit false

namespace ProxyTunnel

theorem Ip4.isDigit_or_dot_of_mem_write {ip : Ip4} {c : Char} (h : c ∈ ip.write) :
    c.isDigit = true ∨ c = '.' := by
  have hoctet : ∀ octet, c ∈ writeOctet octet → c.isDigit = true :=
    fun _ => Decimal.isDigit_of_mem_write
  simp only [write, List.mem_append, List.mem_cons] at h
  grind

/-! ## Addresses without brackets -/

namespace Endpoint

theorem ofHost?_write (ip : Ip4) (port : UInt16) : ofHost? ip.write port = some (ip4 ip port) := by
  have hread : Ip4.read ip.write = some (ip, []) :=
    Ip4.read_eq_some_iff.2 ⟨(List.append_nil _).symm, fun _ => nofun⟩
  rw [ofHost?, hread]

/-- Without a colon an address is an IPv4 address. -/
theorem ofHost?_of_notMem {host : List Char} {port : UInt16} {e : Endpoint} (hcolon : ':' ∉ host)
    (h : ofHost? host port = some e) : ∃ ip : Ip4, host = ip.write ∧ e = ip4 ip port := by
  unfold ofHost? at h
  split at h
  · rename_i ip hread
    cases h
    obtain ⟨hhost, _⟩ := Ip4.read_eq_some_iff.1 hread
    exact ⟨ip, by rw [hhost, List.append_nil], rfl⟩
  · split at h
    · rename_i hread
      exact absurd (SpellsIp6.colon_mem ⟨[], hread, rfl⟩) hcolon
    · cases h

/-- With a colon it is an IPv6 address, if the whole text is one. -/
theorem ofHost?_of_mem {host : List Char} {port : UInt16} {e : Endpoint} (hcolon : ':' ∈ host) :
    ofHost? host port = some e ↔ ∃ ip, Ip6.read host = some (ip, []) ∧ e = ip6 ip port 0 0 := by
  unfold ofHost?
  split
  · rename_i ip hread
    obtain ⟨rfl, _⟩ := Ip4.read_eq_some_iff.1 hread
    rw [List.append_nil] at hcolon
    exact absurd hcolon ip.colon_notMem_write
  · split
    · rename_i ip hread
      simp [hread, eq_comm]
    · rename_i hpart
      exact iff_of_false nofun fun ⟨ip, hread, _⟩ => hpart ip hread

end Endpoint

namespace Destination

/-! ## Brackets at the ends of a text -/

section

variable {text : List Char} (h : ∀ c ∈ text, isBracket c = false)

include h

theorem stops_isBracket : Stops isBracket text ∧ Stops isBracket text.reverse := by
  constructor
  · intro c hc
    exact h c (List.mem_of_mem_head? hc)
  · intro c hc
    exact h c (List.mem_reverse.1 (List.mem_of_mem_head? hc))

/-- A text without brackets is left as it is. -/
theorem trimBrackets_eq_self : trimBrackets text = text := by
  obtain ⟨hfront, hback⟩ := stops_isBracket h
  rw [trimBrackets, hfront.dropWhile_eq, hback.dropWhile_eq, List.reverse_reverse]

/-- A pair of brackets around it is dropped. -/
theorem trimBrackets_bracketed : trimBrackets ('[' :: (text ++ [']'])) = text := by
  cases text with
  | nil => rfl
  | cons c inner =>
    have hopen : ('[' :: (c :: inner ++ [']'])).dropWhile isBracket = c :: inner ++ [']'] :=
      (stops_cons (h c List.mem_cons_self) _).dropWhile_eq
    have hclose : (c :: inner ++ [']']).reverse.dropWhile isBracket = (c :: inner).reverse := by
      rw [List.reverse_append]
      exact (stops_isBracket h).2.dropWhile_eq
    rw [trimBrackets, hopen, hclose, List.reverse_reverse]

end

theorem mem_dropWhile_isBracket {text : List Char} {c : Char} (hc : isBracket c = false) :
    c ∈ text.dropWhile isBracket ↔ c ∈ text := by
  induction text with
  | nil => rfl
  | cons d text ih =>
    by_cases hd : isBracket d = true
    · have hne : c ≠ d := by
        rintro rfl
        rw [hc] at hd
        cases hd
      simp [hd, ih, hne]
    · simp [hd]

/-- Nothing but brackets is dropped. -/
theorem mem_trimBrackets {text : List Char} {c : Char} (hc : isBracket c = false) :
    c ∈ trimBrackets text ↔ c ∈ text := by
  simp only [trimBrackets, List.mem_reverse, mem_dropWhile_isBracket hc]

/-! ## Both ways -/

/-- A host, a colon and a port are read as one text for what the host means. -/
theorem parse_text_eq_ok_iff {host : String} {port : UInt16} {a : Destination} :
    parse (named host port).text = .ok a ↔ Denotes host.toList port a := by
  have hread : Decimal.read? 65535 (Decimal.write port.toNat) = some port.toNat :=
    Decimal.read?_write (by have := port.toNat_lt; omega)
  have hplus : '+' ∉ Decimal.write port.toNat := fun hmem =>
    absurd (Decimal.isDigit_of_mem_write hmem) (by decide)
  rw [parse_eq_ok_iff, text, String.toList_ofList, write, Endpoint.writePort,
    ofChars?_eq_some_iff (Decimal.colon_notMem_write _) hplus]
  constructor
  · rintro ⟨port', hport, h⟩
    rw [hread, Option.some.injEq, UInt16.toNat_inj] at hport
    rwa [hport]
  · exact fun h => ⟨port, hread, h⟩

/-! ## Where they differ -/

/-- A host is an IPv6 address with a scope, in brackets. -/
def IsScoped (host : String) : Prop :=
  ∃ inside ip6 scope, host.toList = '[' :: (inside ++ [']']) ∧
    Endpoint.SpellsIp6 inside ip6 scope ∧ '%' ∈ inside

/-- A host is an IPv4 address with brackets before or behind it. -/
def IsBracketedIp4 (host : String) : Prop :=
  ∃ ip4 : Ip4, host ≠ ip4.text ∧ trimBrackets host.toList = ip4.write

section

variable {host : String} (port : UInt16)

theorem ofHost_eq (hne : host ≠ "") : ofHost host port =
    .ok (((Endpoint.ofHost? (trimBrackets host.toList) port).map ip).getD (named host port)) := by
  have hempty : ¬ host.isEmpty = true := by rwa [String.isEmpty_iff]
  rw [ofHost, if_neg hempty]
  cases Endpoint.ofHost? (trimBrackets host.toList) port <;> rfl

theorem isBracket_of_mem_write {ip4 : Ip4} {c : Char} (h : c ∈ ip4.write) :
    isBracket c = false := by
  cases hc : isBracket c with
  | false => rfl
  | true =>
    simp only [isBracket, Bool.or_eq_true, beq_iff_eq] at hc
    have hchar := Ip4.isDigit_or_dot_of_mem_write h
    rcases hc with rfl | rfl
    · revert hchar; decide
    · revert hchar; decide

/-- An IPv4 address is the same address as a host, with brackets or without. -/
theorem ofHost_of_trimBrackets {ip4 : Ip4} (h : trimBrackets host.toList = ip4.write) :
    ofHost host port = .ok (ip (.ip4 ip4 port)) := by
  have hne : host ≠ "" := by
    rintro rfl
    exact ip4.write_ne_nil h.symm
  rw [ofHost_eq port hne, h, Endpoint.ofHost?_write]
  rfl

/-- An IPv6 address in brackets is the same address as a host if it has no scope,
and a name if it has one. -/
theorem ofHost_of_spellsIp6 {inside : List Char} {ip6 : Ip6} {scope : UInt32}
    (hhost : host.toList = '[' :: (inside ++ [']'])) (h : Endpoint.SpellsIp6 inside ip6 scope) :
    ofHost host port =
      .ok (if '%' ∈ inside then named host port else ip (.ip6 ip6 port 0 scope)) := by
  have hplain : ∀ c ∈ inside, isBracket c = false := by
    intro c hc
    rw [isBracket, Bool.or_eq_false_iff, beq_eq_false_iff_ne, beq_eq_false_iff_ne]
    constructor
    · rintro rfl
      exact h.notMem rfl (by decide) hc
    · rintro rfl
      exact h.notMem rfl (by decide) hc
  have hne : host ≠ "" := by
    rintro rfl
    cases hhost
  rw [ofHost_eq port hne, hhost, trimBrackets_bracketed hplain]
  by_cases hpercent : '%' ∈ inside
  · have hnone : Endpoint.ofHost? inside port = none := by
      cases hread : Endpoint.ofHost? inside port with
      | none => rfl
      | some e =>
        obtain ⟨ip, hwhole, _⟩ := (Endpoint.ofHost?_of_mem h.colon_mem).1 hread
        exact absurd hwhole (Ip6.read_ne_of_mem rfl hpercent ip)
    rw [if_pos hpercent, hnone]
    rfl
  · obtain ⟨hread, rfl⟩ := h.read_of_notMem hpercent
    rw [if_neg hpercent, (Endpoint.ofHost?_of_mem h.colon_mem).2 ⟨ip6, hread, rfl⟩]
    rfl

/-- A host without a colon is a name if it is no IPv4 address, with brackets or
without. -/
theorem ofHost_of_notMem (hne : host ≠ "") (hcolon : ':' ∉ host.toList)
    (hip4 : ∀ ip4 : Ip4, trimBrackets host.toList ≠ ip4.write) :
    ofHost host port = .ok (named host port) := by
  have htrim : ':' ∉ trimBrackets host.toList := by
    rwa [mem_trimBrackets rfl]
  cases hread : Endpoint.ofHost? (trimBrackets host.toList) port with
  | none =>
    rw [ofHost_eq port hne, hread]
    rfl
  | some e =>
    obtain ⟨ip4, hwrite, _⟩ := Endpoint.ofHost?_of_notMem htrim hread
    exact absurd hwrite (hip4 ip4)

/-- Where no exception applies, a host with a port is what it means in a text. -/
theorem ofHost_of_denotes {a : Destination} (h : Denotes host.toList port a)
    (hscoped : ¬ IsScoped host) (hbracketed : ¬ IsBracketedIp4 host) :
    ofHost host port = .ok a := by
  generalize hchars : host.toList = chars at h
  cases h with
  | ip4 ip4 =>
    apply ofHost_of_trimBrackets
    rw [hchars]
    exact trimBrackets_eq_self fun c => isBracket_of_mem_write
  | @ip6 inside ip6 scope hspells =>
    have hpercent : '%' ∉ inside := fun hmem =>
      hscoped ⟨inside, ip6, scope, hchars, hspells, hmem⟩
    rw [ofHost_of_spellsIp6 port hchars hspells, if_neg hpercent]
  | name hne hcolon hip4 =>
    subst hchars
    rw [String.ofList_toList]
    refine ofHost_of_notMem port (fun hempty => hne (by rw [hempty]; rfl)) hcolon ?_
    intro ip4 htrim
    refine hbracketed ⟨ip4, ?_, htrim⟩
    rintro rfl
    exact hip4 ip4 String.toList_ofList

end

/-- **A destination is the same one given as a text and as a host and a port, but
for brackets**:

* if a host, a colon and a port are read as one text, then the host and the port are
  read as the same destination, unless the host is an IPv6 address with a scope in
  brackets, or an IPv4 address with brackets at its ends;
* the first is an endpoint in the text, and a name with brackets as a host;
* the second is a name with brackets in the text, and an endpoint as a host. -/
theorem ofHost_agrees_but_for_brackets (host : String) (port : UInt16) :
    (∀ a, parse (named host port).text = .ok a → ¬ IsScoped host → ¬ IsBracketedIp4 host →
      ofHost host port = .ok a) ∧
    (IsScoped host → ∃ ip6 scope, parse (named host port).text = .ok (ip (.ip6 ip6 port 0 scope)) ∧
      ofHost host port = .ok (named host port)) ∧
    (IsBracketedIp4 host → ∃ ip4, parse (named host port).text = .ok (named host port) ∧
      ofHost host port = .ok (ip (.ip4 ip4 port))) := by
  refine ⟨fun a h => ofHost_of_denotes port (parse_text_eq_ok_iff.1 h), ?_, ?_⟩
  · rintro ⟨inside, ip6, scope, hhost, hspells, hpercent⟩
    refine ⟨ip6, scope, ?_, ?_⟩
    · rw [parse_text_eq_ok_iff, hhost]
      exact .ip6 hspells port
    · rw [ofHost_of_spellsIp6 port hhost hspells, if_pos hpercent]
  · rintro ⟨ip4, hne, htrim⟩
    refine ⟨ip4, ?_, ofHost_of_trimBrackets port htrim⟩
    -- only brackets are dropped, so the host has no colon, and it is no address itself
    have hcolon : ':' ∉ host.toList := by
      rw [← mem_trimBrackets rfl, htrim]
      exact ip4.colon_notMem_write
    have hnil : host.toList ≠ [] := by
      intro hempty
      rw [hempty] at htrim
      exact ip4.write_ne_nil htrim.symm
    have hip4 : ∀ other : Ip4, host.toList ≠ other.write := by
      intro other hhost
      rw [hhost, trimBrackets_eq_self fun c => isBracket_of_mem_write] at htrim
      exact hne (by rw [Ip4.text, ← htrim, ← hhost, String.ofList_toList])
    have hname := Denotes.name hnil hcolon hip4 port
    rw [String.ofList_toList] at hname
    exact parse_text_eq_ok_iff.2 hname

/-- A scope is lost, and so are the brackets of an IPv4 address. -/
theorem ofHost_differs_from_parse :
    parse (named "[fe80::1%3]" 80).text =
        .ok (ip (.ip6 ⟨[0xFE80, 0, 0, 0, 0, 0, 0, 1], rfl⟩ 80 0 3)) ∧
      ofHost "[fe80::1%3]" 80 = .ok (named "[fe80::1%3]" 80) ∧
      parse (named "[10.0.0.1]" 80).text = .ok (named "[10.0.0.1]" 80) ∧
      ofHost "[10.0.0.1]" 80 = .ok (ip (.ip4 ⟨10, 0, 0, 1⟩ 80)) :=
  ⟨rfl, rfl, rfl, rfl⟩

end Destination

end ProxyTunnel
