/-
Proxies are read as they are written.

The text of a proxy has a scheme or none, credentials or none, an address, and a
slash or none. Whatever is there is read back (`ProxyUrl.parse_spell`), as long as no
sign in the credentials ends them early and the written address is nobody else's.

In the other direction, an accepted text has a host, which is a name or stands in
brackets, and the address is what the host means (`ProxyUrl.ofParts_eq_ok_iff`). A name
without brackets means an IPv4 address or itself. Brackets are for IPv6 addresses, and
so they are read if there is a colon between them. A text in brackets without a colon is
no address of any kind, but it is not refused: it is a name, and the brackets belong to
it (`ProxyUrl.parse_host`).
-/
import ProxyTunnel.Proofs.Hosts
import ProxyTunnel.Proofs.ProxyPattern

set_option autoImplicit false

namespace ProxyTunnel

/-! ## Digits -/

theorem Text.isDigit_of_isDigit {c : Char} (h : c.isDigit = true) : Text.isDigit c = true := by
  have := Decimal.toNat_of_isDigit h
  rwa [Text.isDigit_ascii (by omega)]

theorem ProxyUrl.isHostChar_of_isDigit {c : Char} (h : c.isDigit = true) : isHostChar c = true := by
  have := Decimal.toNat_of_isDigit h
  simp [isHostChar, Text.isWord_ascii (show c.toNat < 0x80 by omega), Char.isAlphanum, h]

namespace ProxyUrl

open Destination (Denotes)

/-- What is read as a number is a port. -/
theorem isPort_of_read? {limit n : Nat} {port : List Char}
    (h : Decimal.read? limit port = some n) : IsPort port := by
  obtain ⟨⟨hne, hall, _⟩, _⟩ := Decimal.read?_eq_some.1 h
  exact ⟨hne, fun c hc => Text.isDigit_of_isDigit (List.all_eq_true.1 hall c hc)⟩

/-! ## Written addresses -/

/-- Destinations that are told apart by what is written for them: flow information is
never written, and a name is one that no other text stands for. -/
def Plain : Destination → Prop
  | .ip e => e.flow = 0
  | .named host _ => IsName host.toList ∧ ∀ ip4 : Ip4, host ≠ ip4.text

/-- A written address is a host, which means that address, a colon and a port. No sign
in it ends credentials. -/
theorem Plain.exists_host {a : Destination} (h : Plain a) : ∃ host port,
    a.write = host ++ ':' :: port ∧ Decimal.read? 65535 port = some a.port.toNat ∧
      Denotes host a.port a ∧ (IsName host ∨ IsBracketed host) ∧ '@' ∉ host := by
  have hwritten : ∀ port : UInt16,
      Decimal.read? 65535 (Decimal.write port.toNat) = some port.toNat := fun port =>
    Decimal.read?_write (by have := port.toNat_lt; omega)
  cases a with
  | named host port =>
    obtain ⟨hname, hip4⟩ := h
    have hdenotes := Denotes.name hname.1 (hname.sign_notMem ':' (by decide))
      (fun ip4 hwrite => hip4 ip4 (by rw [Ip4.text, ← hwrite, String.ofList_toList])) port
    rw [String.ofList_toList] at hdenotes
    exact ⟨host.toList, _, rfl, hwritten port, hdenotes, .inl hname,
      hname.sign_notMem '@' (by decide)⟩
  | ip e =>
    cases e with
    | ip4 ip4 port =>
      have hname : IsName ip4.write := by
        refine ⟨ip4.write_ne_nil, fun c hc => ?_⟩
        rcases Ip4.isDigit_or_dot_of_mem_write hc with hdigit | rfl
        · exact isHostChar_of_isDigit hdigit
        · rfl
      exact ⟨ip4.write, _, rfl, hwritten port, .ip4 ip4 port, .inl hname,
        hname.sign_notMem '@' (by decide)⟩
    | ip6 ip6 port flow scope =>
      obtain rfl : flow = 0 := h
      -- what is written in brackets is an address, since it is read as one
      have hparse : Endpoint.parse? (Endpoint.ip6 ip6 port 0 scope).write = some _ :=
        Endpoint.parse?_write rfl
      have hbracket : Endpoint.parse? (Endpoint.ip6 ip6 port 0 scope).write =
          Endpoint.parse6? (Endpoint.ip6 ip6 port 0 scope).write := Endpoint.parse?_bracket _
      rw [hbracket, Endpoint.parse6?_eq_some_iff] at hparse
      obtain ⟨inside, digits, ip6', port', scope', hwrite, hspells, hport, heq⟩ := hparse
      cases heq
      have hne : inside ≠ [] := List.ne_nil_of_mem hspells.colon_mem
      refine ⟨'[' :: (inside ++ [']']), digits, hwrite.trans (by simp), hport, .ip6 hspells port,
        .inr ⟨inside, hne, hspells.notMem rfl (by decide), rfl⟩, ?_⟩
      simpa using hspells.notMem rfl (by decide)

/-! ## Schemes -/

/-- How a protocol is named, in any spelling of the letters. HTTP need not be named. -/
def Names : Option String → ProxyKind → Prop
  | none, kind => kind = .http
  | some scheme, .socks5 => scheme.toLower = "socks5" ∨ scheme.toLower = "socks5h"
  | some scheme, .http => scheme.toLower = "http"

theorem toLower_eq_iff {text word : String} :
    text.toLower = word ↔ text.toList.map Char.toLower = word.toList := by
  change text.map Char.toLower = word ↔ _
  rw [← String.toList_inj, String.toList_map]

/-- A character that is no letter has no other spelling. -/
theorem isSchemeStart_or_toLower (c : Char) : isSchemeStart c = true ∨ c.toLower = c := by
  by_cases hupper : c.isUpper = true
  · left
    change (c.isUpper || c.isLower) = true
    rw [hupper, Bool.true_or]
  · right
    unfold Char.toLower
    exact dif_neg fun hrange => hupper (decide_eq_true hrange)

/-- Any spelling of a scheme is one. -/
theorem IsScheme.of_toLower {scheme word : String} (h : scheme.toLower = word)
    (hword : IsScheme word.toList) : IsScheme scheme.toList := by
  rw [← toLower_eq_iff.1 h] at hword
  obtain ⟨⟨c, hhead, hstart⟩, hall⟩ := hword
  constructor
  · obtain ⟨d, hd, rfl⟩ : ∃ d, scheme.toList.head? = some d ∧ d.toLower = c := by
      simpa using hhead
    refine ⟨d, hd, ?_⟩
    rcases isSchemeStart_or_toLower d with h | h
    · exact h
    · rwa [h] at hstart
  · intro d hd
    have hlower := hall d.toLower (List.mem_map_of_mem hd)
    rcases isSchemeStart_or_toLower d with h | h
    · exact isSchemeChar_of_isSchemeStart h
    · rwa [h] at hlower

/-- The scheme of a protocol names it. -/
theorem Names.kindOf_eq {scheme : Option String} {kind : ProxyKind} (h : Names scheme kind) :
    kindOf (scheme.map String.toList) = .ok kind := by
  cases scheme with
  | none =>
    obtain rfl : kind = .http := h
    rfl
  | some scheme =>
    have hkind : kindOfScheme? scheme = some kind := by
      unfold kindOfScheme?
      cases kind with
      | socks5 =>
        rcases h with h | h
        · rw [h]
          rfl
        · rw [h]
          rfl
      | http =>
        rw [show scheme.toLower = "http" from h]
        rfl
    simp [kindOf, hkind]

theorem Names.isScheme {scheme : String} {kind : ProxyKind} (h : Names (some scheme) kind) :
    IsScheme scheme.toList := by
  cases kind with
  | socks5 =>
    rcases h with h | h
    · exact .of_toLower h ⟨⟨'s', rfl, rfl⟩, List.all_eq_true.1 rfl⟩
    · exact .of_toLower h ⟨⟨'s', rfl, rfl⟩, List.all_eq_true.1 rfl⟩
  | http => exact .of_toLower h ⟨⟨'h', rfl, rfl⟩, List.all_eq_true.1 rfl⟩

/-! ## Written proxies -/

/-- What stands in front of everything else. -/
def writeScheme : Option String → List Char
  | none => []
  | some scheme => scheme.toList ++ [':', '/', '/']

/-- What stands behind the scheme: the credentials, if there are any, the address, and
a slash or nothing. -/
def writeAccess (url : ProxyUrl) (slash : Bool) : List Char :=
  url.credentials.elim [] writeCredentials ++ (url.address.write ++ writeSlash slash)

/-- What is written for a proxy. -/
def spell (url : ProxyUrl) (scheme : Option String) (slash : Bool) : String :=
  String.ofList (writeScheme scheme ++ url.writeAccess slash)

theorem readCredentials_of_notMem {text : List Char} (h : '@' ∉ text) :
    readCredentials text = none := by
  rw [Option.eq_none_iff_forall_ne_some]
  rintro ⟨c, rest⟩ hread
  obtain ⟨rfl, _⟩ := readCredentials_eq_some_iff.1 hread
  exact h (by simp [writeCredentials])

/-- Credentials and address are read back. -/
theorem readUserAuthority_writeAccess {url : ProxyUrl} (slash : Bool)
    (hcredentials : ∀ c ∈ url.credentials, Writable c) (haddress : Plain url.address) :
    ∃ host port, readUserAuthority (url.writeAccess slash) = some (url.credentials, host, port) ∧
      Destination.ofChars? (host ++ ':' :: port) = some url.address := by
  obtain ⟨host, port, hwrite, hnumber, hdenotes, hform, hat⟩ := haddress.exists_host
  have hport := isPort_of_read? hnumber
  have hcolon := hport.sign_notMem ':' (by decide)
  have hplus := hport.sign_notMem '+' (by decide)
  refine ⟨host, port, ?_, (Destination.ofChars?_eq_some_iff hcolon hplus).2 ⟨_, hnumber, hdenotes⟩⟩
  have hauthority : readAuthority (url.address.write ++ writeSlash slash) = some (host, port) :=
    readAuthority_eq_some_iff.2 ⟨⟨slash, by simp [hwrite]⟩, hform, hport⟩
  rw [writeAccess, readUserAuthority]
  cases hurl : url.credentials with
  | none =>
    -- without credentials there is no `@`
    have hnone : '@' ∉ url.address.write ++ writeSlash slash := by
      have hslash : '@' ∉ writeSlash slash := by cases slash <;> decide
      simp [hwrite, hat, hport.sign_notMem, hslash]
    rw [Option.elim_none, List.nil_append, readCredentials_of_notMem hnone, hauthority]
    rfl
  | some c =>
    have hread : readCredentials (writeCredentials c ++ (url.address.write ++ writeSlash slash)) =
        some (c, url.address.write ++ writeSlash slash) :=
      readCredentials_eq_some_iff.2 ⟨rfl, hcredentials c hurl⟩
    rw [Option.elim_some, hread]
    simp only [Option.bind_some, hauthority, Option.map_some, Option.some_or]

/-- A scheme is told apart from what stands behind it, and is not seen where there is
none. -/
theorem splitScheme_writeScheme {scheme : Option String} {kind : ProxyKind} {rest : List Char}
    (hscheme : Names scheme kind) (hrest : readUserAuthority rest ≠ none) :
    splitScheme (writeScheme scheme ++ rest) = (scheme.map String.toList, rest) := by
  cases scheme with
  | none =>
    have hnone : readScheme rest = none := by
      rw [Option.eq_none_iff_forall_ne_some]
      exact fun p hread => hrest (readUserAuthority_of_readScheme hread)
    rw [writeScheme, List.nil_append, splitScheme, hnone]
    rfl
  | some scheme =>
    have hread : readScheme (writeScheme (some scheme) ++ rest) = some (scheme.toList, rest) :=
      readScheme_eq_some_iff.2 ⟨by simp [writeScheme], hscheme.isScheme⟩
    rw [splitScheme, hread]
    rfl

/-- **A proxy is read back**, in whichever way it is written: with its scheme in any
spelling, or none for HTTP, with credentials or none, with a slash behind it or none. -/
theorem parse_spell (url : ProxyUrl) (scheme : Option String) (slash : Bool)
    (hscheme : Names scheme url.kind) (hcredentials : ∀ c ∈ url.credentials, Writable c)
    (haddress : Plain url.address) : parse (url.spell scheme slash) = .ok url := by
  obtain ⟨host, port, hread, hdestination⟩ :=
    readUserAuthority_writeAccess slash hcredentials haddress
  have hsplit : splitScheme (url.spell scheme slash).toList =
      (scheme.map String.toList, url.writeAccess slash) := by
    rw [spell, String.toList_ofList]
    exact splitScheme_writeScheme hscheme (by simp [hread])
  rw [parse, hsplit]
  simp only [hread, hscheme.kindOf_eq, hdestination]
  rfl

/-- A link-local address with a scope, a user name that begins with a bracket, and a
colon in the password. -/
theorem parse_spell_applied :
    Names (some "SocKS5h") .socks5 ∧ Writable ⟨"[al", "s3:c r"⟩ ∧
      Plain (.ip (.ip6 ⟨[0xFE80, 0, 0, 0, 0, 0, 0, 1], rfl⟩ 1080 0 3)) ∧
      parse "SocKS5h://[al:s3:c r@[fe80::1%3]:1080/" =
        .ok ⟨.socks5, .ip (.ip6 ⟨[0xFE80, 0, 0, 0, 0, 0, 0, 1], rfl⟩ 1080 0 3),
          some ⟨"[al", "s3:c r"⟩⟩ := by
  have hscheme : Names (some "SocKS5h") .socks5 := .inr (toLower_eq_iff.2 rfl)
  have hwritable : Writable ⟨"[al", "s3:c r"⟩ := ⟨by decide, by simp, by simp⟩
  have hparse := parse_spell ⟨.socks5, .ip (.ip6 ⟨[0xFE80, 0, 0, 0, 0, 0, 0, 1], rfl⟩ 1080 0 3),
    some ⟨"[al", "s3:c r"⟩⟩ (some "SocKS5h") true hscheme (by rintro _ ⟨⟩; exact hwritable) rfl
  exact ⟨hscheme, hwritable, rfl, hparse⟩

/-! ## Accepted hosts -/

/-- The host of a text that fits. -/
def hostPart (text : String) : Option (List Char) :=
  (pattern.captures text.toList).bind fun parts => parts.lookup .host

/-- What parts name, if they name something. -/
theorem ofParts_eq_ok_iff {parts : Parts} {host port : List Char} {url : ProxyUrl}
    (hhost : parts.lookup .host = some host) (hport : parts.lookup .port = some port)
    (hdigits : IsPort port) : ofParts parts = .ok url ↔
      kindOf (parts.lookup .scheme) = .ok url.kind ∧ credentialsOf parts = url.credentials ∧
        ∃ n : UInt16, Decimal.read? 65535 port = some n.toNat ∧ Denotes host n url.address := by
  rw [← Destination.ofChars?_eq_some_iff (hdigits.sign_notMem ':' (by decide))
    (hdigits.sign_notMem '+' (by decide))]
  obtain ⟨kind, address, credentials⟩ := url
  simp only [ofParts, hhost, hport]
  cases kindOf (parts.lookup .scheme) with
  | error e => simp [bind, Except.bind]
  | ok kind' =>
    cases Destination.ofChars? (host ++ ':' :: port) with
    | none => simp [bind, Except.bind]
    | some address' => simp [bind, Except.bind, and_comm]

theorem bracketed_inj {inside other : List Char} :
    '[' :: (inside ++ [']']) = '[' :: (other ++ [']']) ↔ inside = other := by
  rw [List.cons_inj_right, List.append_cancel_right_eq]

/-- A host in brackets means the IPv6 address between them, or itself if there is no
colon. -/
theorem denotes_bracketed_iff {inside : List Char} {port : UInt16} {a : Destination} :
    Denotes ('[' :: (inside ++ [']'])) port a ↔
      (∃ ip6 scope, Endpoint.SpellsIp6 inside ip6 scope ∧ a = .ip (.ip6 ip6 port 0 scope)) ∨
        (':' ∉ inside ∧ a = .named (String.ofList ('[' :: (inside ++ [']']))) port) := by
  have hip4 : ∀ ip4 : Ip4, '[' :: (inside ++ [']']) ≠ ip4.write := by
    intro ip4 hwrite
    have hmem : '[' ∈ ip4.write := hwrite ▸ List.mem_cons_self
    exact absurd (Destination.isBracket_of_mem_write hmem) (by decide)
  constructor
  · intro h
    generalize hhost : '[' :: (inside ++ [']']) = host at h hip4
    cases h with
    | ip4 ip4 => exact absurd rfl (hip4 ip4)
    | ip6 hspells =>
      obtain rfl := bracketed_inj.1 hhost
      exact .inl ⟨_, _, hspells, rfl⟩
    | name hne hcolon =>
      subst hhost
      exact .inr ⟨fun hmem => hcolon (by simp [hmem]), rfl⟩
  · rintro (⟨ip6, scope, hspells, rfl⟩ | ⟨hcolon, rfl⟩)
    · exact .ip6 hspells port
    · exact .name (List.cons_ne_nil _ _) (by simp [hcolon]) hip4 port

/-- The documented hosts: a name, an IPv4 address, or an IPv6 address in brackets. -/
def Documented (host : List Char) (a : Destination) : Prop :=
  ((∃ e, a = .ip e) ∨ ∃ name port, a = .named name port ∧ IsName name.toList) ∧
    ∀ inside, host = '[' :: (inside ++ [']']) →
      ∃ ip6 port scope, Endpoint.SpellsIp6 inside ip6 scope ∧ a = .ip (.ip6 ip6 port 0 scope)

/-- Brackets around a text without a colon. -/
def IsBare (host : List Char) : Prop :=
  ∃ inside, host = '[' :: (inside ++ [']']) ∧ ':' ∉ inside

/-- A bare text in brackets means itself, and every other host is documented. -/
theorem documented_iff {host : List Char} {port : UInt16} {a : Destination}
    (hform : IsName host ∨ IsBracketed host) (h : Denotes host port a) :
    Documented host a ↔ ¬ IsBare host := by
  rcases hform with hname | ⟨inside, _, _, rfl⟩
  · have hopen : ∀ inside, host ≠ '[' :: (inside ++ [']']) := by
      rintro inside rfl
      exact hname.sign_notMem '[' (by decide) List.mem_cons_self
    refine iff_of_true ⟨?_, fun inside hhost => absurd hhost (hopen inside)⟩
      fun ⟨inside, hhost, _⟩ => hopen inside hhost
    cases h with
    | ip4 ip4 => exact .inl ⟨_, rfl⟩
    | ip6 hspells => exact .inl ⟨_, rfl⟩
    | name => exact .inr ⟨_, _, rfl, by rwa [String.toList_ofList]⟩
  · rcases denotes_bracketed_iff.1 h with ⟨ip6, scope, hspells, rfl⟩ | ⟨hcolon, rfl⟩
    · refine iff_of_true ⟨.inl ⟨_, rfl⟩, ?_⟩ ?_
      · intro other hhost
        obtain rfl := bracketed_inj.1 hhost
        exact ⟨ip6, port, scope, hspells, rfl⟩
      · rintro ⟨other, hhost, hcolon⟩
        obtain rfl := bracketed_inj.1 hhost
        exact hcolon hspells.colon_mem
    · refine iff_of_false ?_ (not_not_intro ⟨inside, rfl, hcolon⟩)
      rintro ⟨_, hinside⟩
      obtain ⟨_, _, _, _, heq⟩ := hinside inside rfl
      cases heq

/-- **The host of an accepted text** is a name, an IPv4 address or an IPv6 address in
brackets, unless it is a text in brackets without a colon. Such a text is refused for
its scheme or its port or not at all, and is a name with its brackets. -/
theorem parse_host (text : String) :
    (∀ url, parse text = .ok url → ∃ host, hostPart text = some host ∧
      (Documented host url.address ↔ ¬ IsBare host)) ∧
    ∀ parts host, pattern.captures text.toList = some parts → parts.lookup .host = some host →
      IsBare host → ∀ url, parse text = .ok url ↔
        kindOf (parts.lookup .scheme) = .ok url.kind ∧ credentialsOf parts = url.credentials ∧
          ∃ digits port, parts.lookup .port = some digits ∧
            Decimal.read? 65535 digits = some (UInt16.toNat port) ∧
            url.address = .named (String.ofList host) port := by
  constructor
  · intro url h
    rw [parse_eq] at h
    cases hcaptures : pattern.captures text.toList with
    | none =>
      rw [hcaptures] at h
      cases h
    | some parts =>
      rw [hcaptures, Option.elim_some] at h
      obtain ⟨host, digits, hhost, hdigits, hform, hport⟩ := forms_of_captures hcaptures
      obtain ⟨_, _, _, _, hdenotes⟩ := (ofParts_eq_ok_iff hhost hdigits hport).1 h
      exact ⟨host, by rw [hostPart, hcaptures, Option.bind_some, hhost],
        documented_iff hform hdenotes⟩
  · intro parts host hcaptures hhost hbare url
    obtain ⟨inside, rfl, hcolon⟩ := hbare
    obtain ⟨host', digits, hhost', hdigits, _, hport⟩ := forms_of_captures hcaptures
    obtain rfl : host' = _ := Option.some.inj (hhost'.symm.trans hhost)
    have hnamed : ∀ port, Denotes ('[' :: (inside ++ [']'])) port url.address ↔
        url.address = .named (String.ofList ('[' :: (inside ++ [']']))) port := by
      intro port
      rw [denotes_bracketed_iff, and_iff_right hcolon, or_iff_right]
      rintro ⟨_, _, hspells, _⟩
      exact hcolon hspells.colon_mem
    rw [parse_eq, hcaptures, Option.elim_some, ofParts_eq_ok_iff hhost hdigits hport]
    simp [hdigits, hnamed]

/-- A word in brackets is accepted as a host, though it is no address. -/
theorem parse_bare_host :
    parse "[foo]:80" = .ok ⟨.http, .named "[foo]" 80, none⟩ ∧
      hostPart "[foo]:80" = some ['[', 'f', 'o', 'o', ']'] ∧
      ¬ Documented ['[', 'f', 'o', 'o', ']'] (.named "[foo]" 80) := by
  refine ⟨rfl, by decide, ?_⟩
  rintro ⟨_, hinside⟩
  obtain ⟨_, _, _, _, heq⟩ := hinside ['f', 'o', 'o'] rfl
  cases heq

end ProxyUrl

end ProxyTunnel
