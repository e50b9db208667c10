/-
A request for a tunnel, as whoever reads it by lines sees it.

A request should be one head: the lines that were meant and an empty one, with
an authority that no space and no end of a line breaks (`Http.IsHead`). All of
it is fixed text but two parts. The token of the credentials is Base64, which
cannot break a line. The authority is the destination in its written form, and
of that the host name is free text: nothing on the way from a text to a
destination looks at its characters.

So a request is a head exactly if the name is plain, and its lines are the right
ones exactly if no CR LF stands in the name (`Http.request_isHead_iff`). A name
with an empty line in it ends the request early, and what follows is read as
something of its own (`Http.request_broken_open`).
-/
import ProxyTunnel.Proofs.HttpOutcome

set_option autoImplicit false

namespace ProxyTunnel

/-! ## Plain text -/

/-- A character that breaks no authority. -/
def isPlain (c : Char) : Bool := c != ' ' && c != '\r' && c != '\n'

theorem isPlain_iff {c : Char} : isPlain c = true ↔ c ≠ ' ' ∧ c ≠ '\r' ∧ c ≠ '\n' := by
  simp [isPlain, and_assoc]

theorem isPlain_digitChar : ∀ n < 16, isPlain n.digitChar = true := by decide

/-- Every numeral of a base up to sixteen is plain. -/
theorem all_isPlain_toDigits {base : Nat} (hbase : 1 < base) (hle : base ≤ 16) (n : Nat) :
    (Nat.toDigits base n).all isPlain = true := by
  induction n using Nat.strongRecOn with
  | ind n ih =>
    rw [Nat.toDigits_eq_if hbase]
    by_cases hlt : n < base
    · rw [if_pos hlt]
      simp [isPlain_digitChar n (by omega)]
    · have hless : n / base < n := Nat.div_lt_self (by omega) hbase
      have hdigit : n % base < 16 := Nat.lt_of_lt_of_le (Nat.mod_lt n (by omega)) hle
      rw [if_neg hlt, List.all_append, ih _ hless]
      simp [isPlain_digitChar _ hdigit]

namespace Base64

/-- Base64 is plain. -/
theorem all_isPlain_encode (bytes : Bytes) : (encode bytes).all isPlain = true := by
  have hsymbol : ∀ n < 64, isPlain (symbol n) = true := by decide
  obtain ⟨sextets, hbits, hencode⟩ := encode_eq bytes
  rw [hencode, List.all_append, List.all_map, Bool.and_eq_true]
  refine ⟨List.all_eq_true.2 fun n hn => hsymbol n (hbits n hn), ?_⟩
  rw [List.all_replicate]
  simp [isPlain, padding]

end Base64

/-! ## Plain destinations -/

theorem Ip4.all_isPlain_write (ip : Ip4) : ip.write.all isPlain = true := by
  have hoctet : ∀ octet : UInt8, (writeOctet octet).all isPlain = true :=
    fun octet => all_isPlain_toDigits (by decide) (by decide) octet.toNat
  have hdot : isPlain '.' = true := rfl
  simp only [write, List.all_append, List.all_cons, hoctet, hdot, Bool.and_self]

namespace Ip6

theorem all_isPlain_writeGroups (groups : List UInt16) :
    (writeGroups groups).all isPlain = true := by
  have hgroup : ∀ g : UInt16, (writeGroup g).all isPlain = true :=
    fun g => all_isPlain_toDigits (by decide) (by decide) g.toNat
  have hcolon : isPlain ':' = true := rfl
  fun_induction writeGroups groups with
  | case1 => rfl
  | case2 g => exact hgroup g
  | case3 g groups _ ih => simp only [List.all_append, List.all_cons, hgroup, hcolon, ih, Bool.and_self]

theorem all_isPlain_write (ip : Ip6) : ip.write.all isPlain = true := by
  have hgap : gap.all isPlain = true := rfl
  have hstart : mappedStart.all isPlain = true := rfl
  unfold write
  split
  · rw [List.all_append, hstart, Ip4.all_isPlain_write]
    rfl
  · dsimp only
    split
    · exact all_isPlain_writeGroups _
    · simp only [List.all_append, all_isPlain_writeGroups, hgap, Bool.and_self]

end Ip6

namespace Endpoint

theorem all_isPlain_writePort (port : UInt16) : (writePort port).all isPlain = true := by
  rw [writePort, List.all_cons, Decimal.write, all_isPlain_toDigits (by decide) (by decide)]
  rfl

/-- Every written IP address is plain. -/
theorem all_isPlain_write (e : Endpoint) : e.write.all isPlain = true := by
  have hbracket : isPlain '[' = true ∧ isPlain ']' = true := ⟨rfl, rfl⟩
  have hscope : ∀ scope, (writeScope scope).all isPlain = true := by
    intro scope
    unfold writeScope
    split
    · rfl
    · rw [List.all_cons, Decimal.write, all_isPlain_toDigits (by decide) (by decide)]
      rfl
  cases e with
  | ip4 ip port => simp only [write, List.all_append, Ip4.all_isPlain_write, all_isPlain_writePort,
      Bool.and_self]
  | ip6 ip port flow scope => simp only [write, List.all_append, List.all_cons, hbracket,
      Ip6.all_isPlain_write, hscope, all_isPlain_writePort, Bool.and_self]

end Endpoint

namespace Destination

/-- The host name of a destination has no space, CR or LF. -/
def IsPlain : Destination → Prop
  | named host _ => host.toList.all isPlain = true
  | ip _ => True

instance (d : Destination) : Decidable d.IsPlain :=
  match d with
  | named host _ => inferInstanceAs (Decidable (host.toList.all isPlain = true))
  | ip _ => inferInstanceAs (Decidable True)

/-- A CR LF stands in the host name of a destination. -/
def HoldsLineEnd : Destination → Prop
  | named host _ => ['\r', '\n'] <:+: host.toList
  | ip _ => False

/-- A destination is plain exactly if its written form is. -/
theorem all_isPlain_write (d : Destination) : d.write.all isPlain = true ↔ d.IsPlain := by
  cases d with
  | named host port => simp [write, IsPlain, List.all_append, Endpoint.all_isPlain_writePort]
  | ip endpoint => exact iff_of_true endpoint.all_isPlain_write trivial

end Destination

/-! ## Where a terminator can be -/

namespace Framing

theorem findTerminator_cons_eq_none {b : UInt8} {bytes : Bytes} :
    findTerminator (b :: bytes) = none ↔
      ¬ (b = 13 ∧ bytes.head? = some 10) ∧ findTerminator bytes = none := by
  rw [findTerminator_cons]
  by_cases h : b = 13 ∧ bytes.head? = some 10
  · simp [h]
  · simp [h]

/-- A terminator is found, whatever stands before it. -/
theorem findTerminator_ne_none (p q : Bytes) : findTerminator (p ++ 13 :: 10 :: q) ≠ none := by
  induction p with
  | nil => simp [findTerminator]
  | cons b p ih =>
    intro h
    exact ih (findTerminator_cons_eq_none.1 h).2

/-- Bytes without a CR in front of others add no terminator. -/
theorem findTerminator_behind {p : Bytes} (h : 13 ∉ p) (q : Bytes) :
    findTerminator (p ++ q) = none ↔ findTerminator q = none := by
  induction p with
  | nil => rfl
  | cons b p ih =>
    simp only [List.mem_cons, not_or] at h
    have hb : b ≠ 13 := fun hb => h.1 hb.symm
    rw [List.cons_append, findTerminator_cons_eq_none, ih h.2]
    simp [hb]

/-- Neither do bytes behind others that do not begin with LF. -/
theorem findTerminator_before {q : Bytes} (h : findTerminator q = none) (hlf : q.head? ≠ some 10)
    (p : Bytes) : findTerminator (p ++ q) = none ↔ findTerminator p = none := by
  induction p with
  | nil => exact iff_of_true h rfl
  | cons b p ih =>
    -- what follows this byte begins with LF in both cases or in none
    have hhead : (p ++ q).head? = some 10 ↔ p.head? = some 10 := by
      cases p <;> simp [hlf]
    rw [List.cons_append, findTerminator_cons_eq_none, findTerminator_cons_eq_none, hhead, ih]

end Framing

namespace Charset

/-- A byte of ASCII other than the question mark stands for its own character
alone. -/
theorem asciiByte_eq_iff {c : Char} {b : UInt8} (hascii : b.toNat < 0x80) (hmark : b ≠ 0x3F) :
    asciiByte c = b ↔ c.toNat = b.toNat := by
  unfold asciiByte
  by_cases hc : c.toNat < 0x80
  · rw [if_pos hc, ← UInt8.toNat_inj, UInt8.toNat_ofNat', Nat.mod_eq_of_lt (by omega)]
  · rw [if_neg hc]
    apply iff_of_false
    · exact fun h => hmark h.symm
    · omega

theorem asciiByte_eq_cr {c : Char} : asciiByte c = 13 ↔ c = '\r' := by
  rw [asciiByte_eq_iff (by decide) (by decide), ← Char.toNat_inj]
  rfl

theorem asciiByte_eq_lf {c : Char} : asciiByte c = 10 ↔ c = '\n' := by
  rw [asciiByte_eq_iff (by decide) (by decide), ← Char.toNat_inj]
  rfl

theorem asciiByte_eq_space {c : Char} : asciiByte c = 32 ↔ c = ' ' := by
  rw [asciiByte_eq_iff (by decide) (by decide), ← Char.toNat_inj]
  rfl

/-- A plain character is a byte that is no space, CR or LF. -/
theorem isPlain_iff_asciiByte {c : Char} :
    isPlain c = true ↔ asciiByte c ≠ 32 ∧ asciiByte c ≠ 13 ∧ asciiByte c ≠ 10 := by
  simp only [isPlain_iff, ne_eq, asciiByte_eq_space, asciiByte_eq_cr, asciiByte_eq_lf]

theorem encode_append (a b : String) : ascii.encode (a ++ b) = ascii.encode a ++ ascii.encode b := by
  simp [encode]

/-- Text without a CR has none in ASCII. -/
theorem not_mem_cr {chars : List Char} (h : '\r' ∉ chars) : 13 ∉ chars.map asciiByte := by
  intro hmem
  obtain ⟨c, hc, hcr⟩ := List.mem_map.1 hmem
  rw [asciiByte_eq_cr.1 hcr] at hc
  exact h hc

/-- Plain text has neither. -/
theorem not_mem_of_isPlain {chars : List Char} (h : chars.all isPlain = true) :
    13 ∉ chars.map asciiByte :=
  not_mem_cr fun hmem => absurd (List.all_eq_true.1 h _ hmem) (by decide)

/-- ASCII has a CR LF where the text has one. -/
theorem findTerminator_eq_none_iff (chars : List Char) :
    Framing.findTerminator (chars.map asciiByte) = none ↔ ¬ ['\r', '\n'] <:+: chars := by
  induction chars with
  | nil => simp [Framing.findTerminator]
  | cons c chars ih =>
    have hhead : (chars.map asciiByte).head? = some 10 ↔ chars.head? = some '\n' := by
      cases chars <;> simp [asciiByte_eq_lf]
    have hprefix : ['\r', '\n'] <+: c :: chars ↔ c = '\r' ∧ chars.head? = some '\n' := by
      cases chars <;> simp [List.cons_prefix_cons, eq_comm]
    rw [List.map_cons, Framing.findTerminator_cons_eq_none, List.infix_cons_iff, hprefix,
      asciiByte_eq_cr, hhead, ih, not_or]

end Charset

namespace Http

/-- A line without a CR is not ended early. -/
theorem unended_of_not_mem {line : Bytes} (h : 13 ∉ line) : Unended line :=
  (Framing.findTerminator_behind h [13]).2 rfl

/-- Text in a line that is plain before and behind it ends the line early exactly
if a CR LF stands in it. -/
theorem unended_within {before behind : Bytes} (hbefore : 13 ∉ before) (hbehind : 13 ∉ behind)
    (hlf : 10 ∉ behind) (text : Bytes) :
    Unended (before ++ text ++ behind) ↔ Framing.findTerminator text = none := by
  have hrest : Framing.findTerminator (behind ++ [13]) = none := unended_of_not_mem hbehind
  have hhead : (behind ++ [13]).head? ≠ some 10 := by
    cases behind <;> simp_all
    exact fun h => hlf.1 h.symm
  unfold Unended
  rw [List.append_assoc, List.append_assoc, Framing.findTerminator_behind hbefore,
    Framing.findTerminator_before hrest hhead]

/-- A line that is read back whole was not ended early. -/
theorem unended_of_rawLines {line : Bytes} {lines more : List Bytes}
    (h : rawLines ((line :: lines).flatMap (· ++ lineEnd) ++ lineEnd) = line :: more) :
    Unended line := by
  generalize hrest : lines.flatMap (· ++ lineEnd) ++ lineEnd = rest
  have hblock : (line :: lines).flatMap (· ++ lineEnd) ++ lineEnd = line ++ 13 :: 10 :: rest := by
    simp [← hrest, lineEnd]
  rw [hblock] at h
  obtain ⟨position, hfind⟩ := Option.ne_none_iff_exists'.1 (Framing.findTerminator_ne_none line rest)
  obtain ⟨hunended, _, heq⟩ := unended_of_findTerminator hfind
  -- the first line that is read is what stands before the first terminator
  rw [heq, rawLines_line hunended] at h
  rw [← (List.cons.inj h).1]
  exact hunended

/-- Lines that nothing ends early are read back as they were written. -/
theorem rawLines_block {lines : List Bytes} (h : ∀ line ∈ lines, Unended line) (rest : Bytes) :
    rawLines (lines.flatMap (· ++ lineEnd) ++ rest) = lines ++ rawLines rest := by
  induction lines with
  | nil => rfl
  | cons line lines ih =>
    simp only [List.forall_mem_cons] at h
    simp only [List.flatMap_cons, List.append_assoc, lineEnd, List.cons_append, List.nil_append]
    rw [rawLines_line h.1]
    exact congrArg (line :: ·) (ih h.2)

/-- If none of them is empty, the first empty line is the one after them. -/
theorem splitAfter_block {lines : List Bytes} (h : ∀ line ∈ lines, Unended line)
    (hne : ∀ line ∈ lines, line ≠ []) :
    splitAfter (lines.flatMap (· ++ lineEnd) ++ lineEnd) =
      some (lines.flatMap (· ++ lineEnd) ++ lineEnd, []) := by
  induction lines with
  | nil => rfl
  | cons line lines ih =>
    simp only [List.forall_mem_cons] at h hne
    have hrest := ih h.2 hne.2
    simp only [List.flatMap_cons, List.append_assoc, lineEnd, List.cons_append,
      List.nil_append] at hrest ⊢
    rw [splitAfter_line h.1 hne.1, hrest]
    rfl

theorem splitHead_block {line : Bytes} {lines : List Bytes}
    (h : ∀ l ∈ line :: lines, Unended l) (hne : ∀ l ∈ line :: lines, l ≠ []) :
    splitHead ((line :: lines).flatMap (· ++ lineEnd) ++ lineEnd) =
      some ((line :: lines).flatMap (· ++ lineEnd) ++ lineEnd, []) := by
  have hafter := splitAfter_block h hne
  simp only [List.forall_mem_cons] at h hne
  simp only [List.flatMap_cons, List.append_assoc, lineEnd, List.cons_append,
    List.nil_append] at hafter ⊢
  rwa [splitHead_line h.1, ← splitAfter_line h.1 hne.1]

/-! ## The lines of a request -/

/-- The destination as it stands in a request. -/
def authority (remote : Destination) : Bytes := Charset.ascii.encode remote.text

/-- The lines that a request is meant to have, without the empty one at its end. -/
def headLines (remote : Destination) (credentials : Option Credentials) : List Bytes :=
  (Charset.ascii.encode "CONNECT " ++ authority remote ++ Charset.ascii.encode " HTTP/1.1") ::
  (Charset.ascii.encode "Host: " ++ authority remote) ::
  Charset.ascii.encode "Proxy-Connection: Keep-Alive" ::
  (credentials.map fun c => Charset.ascii.encode "Proxy-Authorization: Basic " ++
    Charset.ascii.encode (basicToken c)).toList

/-- The bytes are one request head: the first CR LF CR LF is their end, the lines
are the right ones, and no space, CR or LF stands in the authority. -/
structure IsHead (remote : Destination) (credentials : Option Credentials) (bytes : Bytes) :
    Prop where
  ends : splitHead bytes = some (bytes, [])
  lines : rawLines bytes = headLines remote credentials ++ [[]]
  plain : ∀ b ∈ authority remote, b ≠ 32 ∧ b ≠ 13 ∧ b ≠ 10

/-- What the line of credentials begins with. -/
def authorizationStart : Bytes := Charset.ascii.encode "Proxy-Authorization: Basic "

/-- The line of credentials. -/
def authorizationLine (who : Credentials) : Bytes := Charset.ascii.encode (authorization who)

theorem authorizationLine_eq (who : Credentials) :
    authorizationLine who = authorizationStart ++ Charset.ascii.encode (basicToken who) :=
  Charset.encode_append _ _

theorem request_eq (remote : Destination) (credentials : Option Credentials) :
    request remote credentials =
      (headLines remote credentials).flatMap (· ++ lineEnd) ++ lineEnd := by
  have hconnect : Charset.ascii.encode s!"CONNECT {remote.text} HTTP/1.1" =
      Charset.ascii.encode "CONNECT " ++ authority remote ++ Charset.ascii.encode " HTTP/1.1" := by
    change Charset.ascii.encode ("CONNECT " ++ remote.text ++ " HTTP/1.1") = _
    rw [Charset.encode_append, Charset.encode_append, authority]
  have hhost : Charset.ascii.encode s!"Host: {remote.text}" =
      Charset.ascii.encode "Host: " ++ authority remote := by
    change Charset.ascii.encode ("Host: " ++ remote.text) = _
    rw [Charset.encode_append, authority]
  have hauthorization : ∀ c, Charset.ascii.encode (authorization c) =
      Charset.ascii.encode "Proxy-Authorization: Basic " ++
        Charset.ascii.encode (basicToken c) := authorizationLine_eq
  have hlines : (requestLines remote credentials).map Charset.ascii.encode =
      headLines remote credentials := by
    cases credentials <;>
      simp only [requestLines, headLines, List.map_cons, List.map_nil, hconnect, hhost,
        Option.map_none, Option.map_some, Option.toList_none, Option.toList_some,
        hauthorization, List.cons_append, List.nil_append]
  rw [request, head, ← hlines, List.flatMap_map]

/-- The lines that name the destination and how to go on, with their ends. -/
def preamble (remote : Destination) : Bytes := (headLines remote none).flatMap (· ++ lineEnd)

/-- Without credentials a request is its preamble and an empty line. -/
theorem request_none (remote : Destination) :
    request remote none = preamble remote ++ lineEnd :=
  request_eq remote none

/-- Credentials are its last line but one. -/
theorem request_some (remote : Destination) (who : Credentials) :
    request remote (some who) =
      preamble remote ++ (authorizationLine who ++ lineEnd ++ lineEnd) := by
  rw [request_eq, preamble, authorizationLine_eq, authorizationStart]
  simp only [headLines, Option.map_some, Option.map_none, Option.toList_some, Option.toList_none,
    List.flatMap_cons, List.flatMap_nil, List.append_assoc, List.append_nil]

theorem authority_eq (remote : Destination) :
    authority remote = remote.write.map Charset.asciiByte := by
  simp [authority, Charset.encode, Destination.text]

/-- The bytes of the authority are plain exactly if the destination is. -/
theorem plain_authority_iff (remote : Destination) :
    (∀ b ∈ authority remote, b ≠ 32 ∧ b ≠ 13 ∧ b ≠ 10) ↔ remote.IsPlain := by
  rw [← Destination.all_isPlain_write, authority_eq, List.all_eq_true, List.forall_mem_map]
  simp only [Charset.isPlain_iff_asciiByte]

/-- Plain text has no CR, and so no CR LF. -/
theorem findTerminator_plain {chars : List Char} (h : chars.all isPlain = true) :
    Framing.findTerminator (chars.map Charset.asciiByte) = none := by
  have hnone := (Framing.findTerminator_behind (Charset.not_mem_of_isPlain h) []).2 rfl
  rwa [List.append_nil] at hnone

/-- A CR LF stands in the authority exactly if it stands in the host name. -/
theorem findTerminator_authority_iff (remote : Destination) :
    Framing.findTerminator (authority remote) = none ↔ ¬ remote.HoldsLineEnd := by
  rw [authority_eq]
  cases remote with
  | named host port =>
    -- the port is a colon and digits: no terminator is in it or ends with it
    have hport := findTerminator_plain (Endpoint.all_isPlain_writePort port)
    have hhead : ((Endpoint.writePort port).map Charset.asciiByte).head? ≠ some 10 := by
      intro h
      cases h
    rw [Destination.write, List.map_append, Framing.findTerminator_before hport hhead,
      Charset.findTerminator_eq_none_iff]
    rfl
  | ip endpoint => exact iff_of_true (findTerminator_plain endpoint.all_isPlain_write) id

/-- The first line is whole exactly if the authority is. -/
theorem unended_connectLine (remote : Destination) :
    Unended (Charset.ascii.encode "CONNECT " ++ authority remote ++
      Charset.ascii.encode " HTTP/1.1") ↔ Framing.findTerminator (authority remote) = none :=
  unended_within (Charset.not_mem_cr (by decide)) (Charset.not_mem_cr (by decide)) (by decide) _

/-- All lines are. The others are fixed text, and Base64. -/
theorem unended_headLines {remote : Destination} (credentials : Option Credentials)
    (h : Framing.findTerminator (authority remote) = none) :
    ∀ line ∈ headLines remote credentials, Unended line := by
  have hhost : Unended (Charset.ascii.encode "Host: " ++ authority remote) := by
    have hkey : Unended (Charset.ascii.encode "Host: " ++ authority remote ++ []) :=
      (unended_within (Charset.not_mem_cr (by decide)) (by simp) (by simp) _).2 h
    rwa [List.append_nil] at hkey
  have hfixed : Unended (Charset.ascii.encode "Proxy-Connection: Keep-Alive") :=
    unended_of_not_mem (Charset.not_mem_cr (by decide))
  have htoken : ∀ c, Unended (Charset.ascii.encode "Proxy-Authorization: Basic " ++
      Charset.ascii.encode (basicToken c)) := by
    intro c
    apply unended_of_not_mem
    rw [List.mem_append, not_or]
    refine ⟨Charset.not_mem_cr (by decide), ?_⟩
    rw [basicToken, Charset.encode, String.toList_ofList]
    exact Charset.not_mem_of_isPlain (Base64.all_isPlain_encode _)
  simp only [headLines, List.forall_mem_cons]
  refine ⟨(unended_connectLine remote).2 h, hhost, hfixed, ?_⟩
  cases credentials with
  | none => simp
  | some c => simpa using htoken c

theorem headLines_ne_nil (remote : Destination) (credentials : Option Credentials) :
    ∀ line ∈ headLines remote credentials, line ≠ [] := by
  have hfixed : Charset.ascii.encode "CONNECT " ≠ [] ∧ Charset.ascii.encode "Host: " ≠ [] ∧
      Charset.ascii.encode "Proxy-Connection: Keep-Alive" ≠ [] ∧
      Charset.ascii.encode "Proxy-Authorization: Basic " ≠ [] := by
    decide
  cases credentials <;> simp [headLines, hfixed]

/-- **The lines of a request are the right ones exactly if no CR LF stands in
the host name.** -/
theorem splits_request_iff (remote : Destination) (credentials : Option Credentials) :
    (splitHead (request remote credentials) = some (request remote credentials, []) ∧
      rawLines (request remote credentials) = headLines remote credentials ++ [[]]) ↔
      ¬ remote.HoldsLineEnd := by
  rw [← findTerminator_authority_iff, request_eq]
  constructor
  · intro h
    -- the first line is enough, for the authority stands in it
    exact (unended_connectLine remote).1 (unended_of_rawLines h.2)
  · intro h
    have hunended := unended_headLines credentials h
    refine ⟨splitHead_block hunended (headLines_ne_nil remote credentials), ?_⟩
    rw [rawLines_block hunended]
    rfl

/-- A plain destination holds no CR LF. -/
theorem not_holdsLineEnd_of_isPlain {remote : Destination} (h : remote.IsPlain) :
    ¬ remote.HoldsLineEnd := by
  rw [← findTerminator_authority_iff, authority_eq]
  exact findTerminator_plain ((Destination.all_isPlain_write remote).2 h)

/-- A request for a plain destination is one head, and no other request is. -/
theorem isHead_iff (remote : Destination) (credentials : Option Credentials) :
    IsHead remote credentials (request remote credentials) ↔ remote.IsPlain := by
  constructor
  · intro h
    exact (plain_authority_iff remote).1 h.plain
  · intro h
    have hsplits := (splits_request_iff remote credentials).2 (not_holdsLineEnd_of_isPlain h)
    exact ⟨hsplits.1, hsplits.2, (plain_authority_iff remote).2 h⟩

/-- **A request for a tunnel is one well-formed head exactly if the host name is
plain**, whatever the credentials are. An IP address always is. A name with a
space, or with a CR or LF of its own, breaks the authority only; the lines
themselves are other ones than those that were meant exactly if the name holds
CR LF. -/
theorem request_isHead_iff (remote : Destination) (configured : Option Credentials) :
    (IsHead remote (effective configured) (request remote (effective configured)) ↔
      remote.IsPlain) ∧
    ((splitHead (request remote (effective configured)) =
        some (request remote (effective configured), []) ∧
      rawLines (request remote (effective configured)) =
        headLines remote (effective configured) ++ [[]]) ↔ ¬ remote.HoldsLineEnd) :=
  ⟨isHead_iff remote (effective configured), splits_request_iff remote (effective configured)⟩

/-- A text that reads as a destination, and whose request is over within what
should be its first line. -/
theorem request_broken_open :
    Destination.parse "a\r\n\r\nb:80" = .ok (.named "a\r\n\r\nb" 80) ∧
      (∃ behind, splitHead (request (.named "a\r\n\r\nb" 80) none) =
        some (Charset.ascii.encode "CONNECT a\r\n\r\n",
          Charset.ascii.encode "b:80 HTTP/1.1\r\n" ++ behind)) ∧
      ¬ IsHead (.named "a\r\n\r\nb" 80) none (request (.named "a\r\n\r\nb" 80) none) := by
  refine ⟨by rfl, ⟨_, by rfl⟩, ?_⟩
  intro h
  exact absurd ((isHead_iff _ none).1 h) (by decide)

end Http

end ProxyTunnel
