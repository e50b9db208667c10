/-
The frames of SOCKS5, written and read back.

What a client writes, a server reads: the lengths in a frame tell where it ends,
whatever stands behind it, and what was written is what is read
(`Socks.RoundTrips`). Only a text of more than 255 characters has no frame.

The other way round, a proxy may answer a request with the address of the
request itself. The header of an answer reaches one byte into its address, so
for each type of address three numbers have to fit together: the size of the
header, the length of the body that it declares and the length that is decoded.
They do (`Socks.answerLength_address`), and so the answer is a package exactly
when its last byte is there, in whatever pieces it comes (`Framing.Yields`).
-/
import ProxyTunnel.Proofs.SocksOutcome
import ProxyTunnel.Proofs.Decoding
import ProxyTunnel.Socks.Server

set_option autoImplicit false

namespace ProxyTunnel

/-! ## Text in ASCII, read back -/

/-- A character as ASCII keeps it. -/
def asciiChar (c : Char) : Char := if c.toNat < 0x80 then c else '?'

/-- A text as ASCII keeps it. -/
def asciiImage (text : String) : String := String.ofList (text.toList.map asciiChar)

/-- ASCII keeps its own text. -/
theorem asciiImage_of_ascii {text : String} (h : ∀ c ∈ text.toList, c.toNat < 0x80) :
    asciiImage text = text := by
  have hsame : text.toList.map asciiChar = text.toList.map id := by
    apply List.map_congr_left
    intro c hc
    exact if_pos (h c hc)
  rw [asciiImage, hsame, List.map_id, String.ofList_toList]

/-- The byte of a character is read as its image. -/
theorem ofNat_asciiByte (c : Char) :
    Charset.asciiByte c < 0x80 ∧ Char.ofNat (Charset.asciiByte c).toNat = asciiChar c := by
  unfold Charset.asciiByte asciiChar
  by_cases hc : c.toNat < 0x80
  · have hbyte : (UInt8.ofNat c.toNat).toNat = c.toNat :=
      UInt8.toNat_ofNat_of_lt (Nat.lt_trans hc (by decide))
    rw [if_pos hc, if_pos hc, UInt8.lt_iff_toNat_lt, hbyte]
    exact ⟨hc, Char.ofNat_toNat c⟩
  · rw [if_neg hc, if_neg hc]
    exact ⟨by decide, rfl⟩

theorem decodeChars_asciiByte (chars : List Char) :
    Utf8.decodeChars (chars.map Charset.asciiByte) = chars.map asciiChar := by
  induction chars with
  | nil => exact Utf8.decodeChars_eq_nil.2 rfl
  | cons c chars ih =>
    obtain ⟨hlt, hchar⟩ := ofNat_asciiByte c
    rw [List.map_cons, Utf8.decodeChars_of_lt hlt, ih, hchar, List.map_cons]

/-- What is read of a text in ASCII is its image. -/
theorem decodeLossy_encode_ascii (text : String) :
    Utf8.decodeLossy (Charset.ascii.encode text) = asciiImage text := by
  rw [Utf8.decodeLossy, Charset.encode, decodeChars_asciiByte, asciiImage]

/-! ## A rule that is fed -/

namespace Framing

variable {α : Type}

/-- Shows a rule a buffer that grows chunk by chunk, until it has an answer. What
is left are the chunks that were not needed. -/
def feed (rule : Framing α) (buffer : Bytes) : List Bytes → Cut α × List Bytes
  | [] => (⟨.waiting, rule, buffer⟩, [])
  | chunk :: chunks =>
    match rule.cut (buffer ++ chunk) with
    | ⟨.waiting, rule, rest⟩ => feed rule rest chunks
    | answered => (answered, chunks)

/-- Fed with a frame in any chunks, a rule waits for its last byte, yields the
package then and leaves everything behind the frame. -/
structure Yields (rule : Framing α) (frame : Bytes) (content : α) : Prop where
  waits : ∀ chunks : List Bytes, chunks.flatten <+: frame → chunks.flatten ≠ frame →
    (rule.feed [] chunks).1.answer = .waiting
  yields : ∀ (chunks : List Bytes) (trailing : Bytes), chunks.flatten = frame ++ trailing →
    ∃ rest later, rule.feed [] chunks = (⟨.package content none, rule, rest⟩, later) ∧
      rest ++ later.flatten = trailing

section

variable {rule : Framing α} {frame : Bytes} {content : α}

/-- A rule that waits on each part of a frame waits however the part comes. -/
theorem feed_of_part
    (hpart : ∀ part, part <+: frame → part ≠ frame → rule.cut part = ⟨.waiting, rule, part⟩)
    {buffer : Bytes} {chunks : List Bytes} (h : buffer ++ chunks.flatten <+: frame)
    (hne : buffer ++ chunks.flatten ≠ frame) :
    rule.feed buffer chunks = (⟨.waiting, rule, buffer ++ chunks.flatten⟩, []) := by
  induction chunks generalizing buffer with
  | nil => rw [feed, List.flatten_nil, List.append_nil]
  | cons chunk chunks ih =>
    rw [List.flatten_cons, ← List.append_assoc] at h hne ⊢
    -- the buffer after this chunk is a part as well, for it begins a shorter one
    have hnow : rule.cut (buffer ++ chunk) = ⟨.waiting, rule, buffer ++ chunk⟩ := by
      apply hpart _ ((List.prefix_append _ _).trans h)
      intro hwhole
      rw [hwhole] at h hne
      have hlength := h.length_le
      rw [List.length_append] at hlength
      have hnone : chunks.flatten = [] := List.eq_nil_of_length_eq_zero (by omega)
      rw [hnone, List.append_nil] at hne
      exact hne rfl
    rw [feed, hnow]
    exact ih h hne

/-- And it yields the package with the chunk that completes the frame. -/
theorem feed_of_whole
    (hpart : ∀ part, part <+: frame → part ≠ frame → rule.cut part = ⟨.waiting, rule, part⟩)
    (hwhole : ∀ rest, rule.cut (frame ++ rest) = ⟨.package content none, rule, rest⟩)
    {buffer trailing : Bytes} {chunks : List Bytes} (hbuffer : buffer <+: frame)
    (hne : buffer ≠ frame) (h : buffer ++ chunks.flatten = frame ++ trailing) :
    ∃ rest later, rule.feed buffer chunks = (⟨.package content none, rule, rest⟩, later) ∧
      rest ++ later.flatten = trailing := by
  induction chunks generalizing buffer with
  | nil =>
    -- a part of the frame cannot be longer than the frame
    have hlength := congrArg List.length h
    have hle := hbuffer.length_le
    simp only [List.flatten_nil, List.append_nil, List.length_append] at hlength
    exact absurd (hbuffer.eq_of_length (by omega)) hne
  | cons chunk chunks ih =>
    rw [List.flatten_cons, ← List.append_assoc] at h
    have hnow : buffer ++ chunk <+: frame ++ trailing := ⟨chunks.flatten, h⟩
    by_cases hshort : (buffer ++ chunk).length < frame.length
    · have hprefix : buffer ++ chunk <+: frame :=
        List.prefix_of_prefix_length_le hnow (List.prefix_append _ _) (by omega)
      have hne' : buffer ++ chunk ≠ frame := by
        intro heq
        rw [heq] at hshort
        omega
      rw [feed, hpart _ hprefix hne']
      exact ih hprefix hne' h
    · obtain ⟨rest, hrest⟩ : frame <+: buffer ++ chunk :=
        List.prefix_of_prefix_length_le (List.prefix_append _ _) hnow (by omega)
      refine ⟨rest, chunks, ?_, ?_⟩
      · rw [feed, ← hrest, hwhole]
      · rw [← hrest, List.append_assoc] at h
        exact List.append_cancel_left h

/-- What a rule makes of a frame and of its parts decides what it yields. -/
theorem yields_of_cut (hne : frame ≠ [])
    (hpart : ∀ part, part <+: frame → part ≠ frame → rule.cut part = ⟨.waiting, rule, part⟩)
    (hwhole : ∀ rest, rule.cut (frame ++ rest) = ⟨.package content none, rule, rest⟩) :
    rule.Yields frame content where
  waits := by
    intro chunks hprefix hpartial
    have hfeed : rule.feed [] chunks = (⟨.waiting, rule, [] ++ chunks.flatten⟩, []) :=
      feed_of_part hpart hprefix hpartial
    rw [hfeed]
  yields := by
    intro chunks trailing h
    exact feed_of_whole hpart hwhole (List.nil_prefix) (Ne.symm hne) h

end

end Framing

/-! ## The address in a frame -/

namespace Destination

/-- The host name has more than 255 characters. -/
def IsOverlong : Destination → Prop
  | named host _ => 255 < host.length
  | ip _ => False

/-- The type byte of an address. -/
def addressType : Destination → UInt8
  | named _ _ => Socks.nameType
  | ip (.ip4 _ _) => Socks.ip4Type
  | ip (.ip6 _ _ _ _) => Socks.ip6Type

/-- The address itself: the octets, or the name in ASCII. -/
def address : Destination → Bytes
  | named host _ => Charset.ascii.encode host
  | ip endpoint => endpoint.octets

/-- The address as frames carry it behind its type byte. -/
def addressBytes : Destination → Bytes
  | named host _ => Socks.counted host
  | ip endpoint => endpoint.octets

/-- The address as an answer reports it. -/
def boundHost : Destination → Socks.BoundHost
  | named host _ => .named (asciiImage host)
  | ip (.ip4 octets _) => .ip4 octets
  | ip (.ip6 groups _ _ _) => .ip6 groups

/-- The address and port as an answer reports them. -/
def bound (d : Destination) : Socks.Bound := ⟨d.boundHost, d.port⟩

end Destination

namespace Socks

/-- A frame that can be written is a version, a command, a zero, and the address
and port. -/
theorem connectFrame_of_not_isOverlong {remote : Destination} (h : ¬ remote.IsOverlong) :
    connectFrame remote = .ok (5 :: 1 :: 0 :: remote.addressType ::
      (remote.addressBytes ++ portField remote.port)) := by
  rw [connectFrame_eq]
  match remote with
  | .named host port =>
    have hlong : ¬ 255 < host.length := h
    rw [connectBytes, if_neg hlong]
    rfl
  | .ip (.ip4 ip port) => rfl
  | .ip (.ip6 ip port flow scope) => rfl

theorem connectFrame_of_isOverlong {remote : Destination} (h : remote.IsOverlong) :
    ∃ size, connectFrame remote = .error (.tooLarge size) := by
  rw [connectFrame_eq]
  match remote with
  | .named host port => exact ⟨host.length, if_pos h⟩

/-- Text behind its length is read back. -/
theorem readCounted_counted {text : String} (h : ¬ 255 < text.length) (rest : Bytes) :
    Item.readCounted (counted text ++ rest) = some (Charset.ascii.encode text, rest) := by
  apply Item.readCounted_append
  rw [encodeCounted_ascii, if_neg h]

/-- A server reads the address of a request. -/
theorem readAddress_address {remote : Destination} (h : ¬ remote.IsOverlong) (rest : Bytes) :
    readAddress remote.addressType (remote.addressBytes ++ rest) = some (remote.address, rest) := by
  match remote with
  | .named host port => exact readCounted_counted h rest
  | .ip (.ip4 ip port) =>
    change readAddress ip4Type (ip.octets ++ rest) = some (ip.octets, rest)
    simp [readAddress, ip4Type, nameType, Ip4.octets]
  | .ip (.ip6 ip port flow scope) =>
    have hlength := ip.length_octets
    change readAddress ip6Type (ip.octets ++ rest) = some (ip.octets, rest)
    simp [readAddress, ip4Type, ip6Type, nameType, hlength, List.take_left' hlength,
      List.drop_left' hlength]

/-- And the decoder of an answer reads it as well. -/
theorem readHost_address {remote : Destination} (h : ¬ remote.IsOverlong) (rest : Bytes) :
    Answer.readHost remote.addressType (remote.addressBytes ++ rest) =
      some (remote.boundHost, rest) := by
  match remote with
  | .named host port =>
    change Answer.readHost nameType (counted host ++ rest) = some (.named (asciiImage host), rest)
    simp [Answer.readHost, ip4Type, ip6Type, nameType, readCounted_counted h,
      decodeLossy_encode_ascii]
  | .ip (.ip4 ip port) =>
    change Answer.readHost ip4Type (ip.octets ++ rest) = some (.ip4 ip, rest)
    simp [Answer.readHost, Ip4.octets, Ip4.ofOctets?]
  | .ip (.ip6 ip port flow scope) =>
    have hlength := ip.length_octets
    change Answer.readHost ip6Type (ip.octets ++ rest) = some (.ip6 ip, rest)
    simp [Answer.readHost, ip4Type, ip6Type, List.take_left' hlength, List.drop_left' hlength,
      ip.ofOctets?_octets]

/-- **The lengths fit together**: by its type byte and the byte after, an answer
with this address is four bytes, the address and the port. -/
theorem answerLength_address {remote : Destination} (h : ¬ remote.IsOverlong) :
    ∃ first more, remote.addressBytes = first :: more ∧
      answerLength remote.addressType first = some (4 + remote.addressBytes.length + 2) := by
  match remote with
  | .named host port =>
    have hlong : ¬ 255 < host.length := h
    have hbyte : (UInt8.ofNat host.length).toNat = host.length :=
      UInt8.toNat_ofNat_of_lt (Nat.lt_succ_of_le (Nat.le_of_not_lt hlong))
    have hlength : (counted host).length = host.length + 1 := by
      simp [counted, String.length_toList]
    refine ⟨_, _, rfl, ?_⟩
    change some (7 + (UInt8.ofNat host.length).toNat) = some (4 + (counted host).length + 2)
    rw [hbyte, hlength]
    congr 1
    omega
  | .ip (.ip4 ip port) => exact ⟨_, _, rfl, rfl⟩
  | .ip (.ip6 ip port flow scope) =>
    have hlength := ip.length_octets
    obtain ⟨first, more, hoctets⟩ := List.exists_cons_of_length_pos (l := ip.octets) (by omega)
    refine ⟨first, more, hoctets, ?_⟩
    change some 22 = some (4 + ip.octets.length + 2)
    rw [hlength]

/-! ## Requests -/

/-- A frame that exists exactly if nothing in it is too long, and that a server
reads back off any stream that goes on behind it. -/
structure RoundTrips {β : Type} (frame : Except WireError Bytes) (overlong : Prop)
    (read : Bytes → Option (β × Bytes)) (value : β) : Prop where
  refused : overlong → ∃ size, frame = .error (.tooLarge size)
  sent : ¬ overlong → ∃ bytes, frame = .ok bytes ∧ ∀ rest, read (bytes ++ rest) = some (value, rest)

/-- User name or password has more than 255 characters. -/
def IsOverlong (c : Credentials) : Prop := 255 < c.username.length ∨ 255 < c.password.length

/-- The frame with the credentials round-trips. -/
theorem roundTrips_credentialsFrame (c : Credentials) :
    RoundTrips (credentialsFrame c) (IsOverlong c) readCredentialsFrame
      (Charset.ascii.encode c.username, Charset.ascii.encode c.password) where
  refused := by
    intro h
    rw [credentialsFrame_eq, credentialsBytes]
    by_cases husername : 255 < c.username.length
    · exact ⟨_, if_pos husername⟩
    · rw [if_neg husername]
      exact ⟨_, if_pos (h.resolve_left husername)⟩
  sent := by
    intro h
    simp only [IsOverlong, not_or] at h
    rw [credentialsFrame_eq, credentialsBytes, if_neg h.1, if_neg h.2]
    refine ⟨_, rfl, ?_⟩
    intro rest
    -- each part tells where it ends
    have husername := readCounted_counted h.1 (counted c.password ++ rest)
    have hpassword := readCounted_counted h.2 rest
    simp [readCredentialsFrame, credentialsVersion, husername, hpassword]

/-- The request of a destination, as a server reads it. -/
def requestFor (remote : Destination) : Request :=
  ⟨connectCommand, 0, remote.addressType, remote.address, remote.port⟩

/-- The frame with the request round-trips. -/
theorem roundTrips_connectFrame (remote : Destination) :
    RoundTrips (connectFrame remote) remote.IsOverlong readRequest (requestFor remote) where
  refused := connectFrame_of_isOverlong
  sent := by
    intro h
    refine ⟨_, connectFrame_of_not_isOverlong h, ?_⟩
    intro rest
    have haddress := readAddress_address h (portField remote.port ++ rest)
    have hport := BigEndian.ofNat_toNat_pair remote.port
    simp only [List.cons_append, List.append_assoc, readRequest, haddress]
    exact congrArg (fun port => some (({ requestFor remote with port := port } : Request), rest)) hport

/-! ## Answers -/

/-- The address and port of a request are decoded as they were written. -/
theorem readBound_address {remote : Destination} (h : ¬ remote.IsOverlong) :
    Answer.readBound (remote.addressType :: (remote.addressBytes ++ portField remote.port)) =
      .ok remote.bound := by
  have hhost := readHost_address h (portField remote.port)
  have hport : UInt16.ofNat (BigEndian.toNat ((portField remote.port).take 2)) = remote.port :=
    BigEndian.ofNat_toNat_pair remote.port
  simp only [Answer.readBound, List.getD_cons_zero, List.drop_succ_cons, List.drop_zero, hhost,
    hport, Destination.bound]

/-- An answer with this address and port. -/
def answerWith (status reserved : UInt8) (remote : Destination) : Bytes :=
  version :: status :: reserved :: remote.addressType ::
    (remote.addressBytes ++ portField remote.port)

theorem ofRelayFrame_answerWith {remote : Destination} (h : ¬ remote.IsOverlong)
    (status reserved : UInt8) :
    Answer.ofRelayFrame (answerWith status reserved remote) =
      .ok (.relay status reserved remote.bound, none) := by
  have hbound := readBound_address h
  unfold Answer.ofRelayFrame answerWith
  simp only [List.getD_cons_zero, List.getD_cons_succ, List.drop_succ_cons, List.drop_zero,
    ne_eq, not_true_eq_false, if_false, hbound]
  rfl

/-- It is a package when its last byte is there. -/
theorem yields_relayFraming {remote : Destination} (h : ¬ remote.IsOverlong)
    (status reserved : UInt8) :
    Answer.relayFraming.Yields (answerWith status reserved remote)
      (.relay status reserved remote.bound) := by
  obtain ⟨first, more, hfirst, hlength⟩ := answerLength_address h
  have hanswer : answerWith status reserved remote = version :: status :: reserved ::
      remote.addressType :: first :: (more ++ portField remote.port) := by
    rw [answerWith, hfirst, List.cons_append]
  have hsize : (answerWith status reserved remote).length =
      4 + remote.addressBytes.length + 2 := by
    simp [answerWith, portField]
    omega
  apply Framing.yields_of_cut
  · exact List.cons_ne_nil _ _
  · intro part hpart hne
    have hshort : part.length < (answerWith status reserved remote).length :=
      Nat.lt_of_le_of_ne hpart.length_le fun heq => hne (hpart.eq_of_length heq)
    by_cases hheader : part.length < 5
    · -- the header itself is not complete
      change Framing.cutHeaded _ 5 _ _ part = _
      exact if_pos hheader
    · -- the header declares more than is there
      have hbegins : [version, status, reserved, remote.addressType, first] <+:
          answerWith status reserved remote := by
        rw [hanswer]
        exact List.prefix_append _ _
      obtain ⟨tail, rfl⟩ : [version, status, reserved, remote.addressType, first] <+: part :=
        List.prefix_of_prefix_length_le hbegins hpart (Nat.le_of_not_lt hheader)
      rw [hsize] at hshort
      change Answer.relayFraming.cut
        (version :: status :: reserved :: remote.addressType :: first :: tail) = _
      rw [cut_relayFraming hlength]
      exact if_pos hshort
  · intro rest
    -- the length that the header declares is that of the whole answer
    have hlong : ¬ (answerWith status reserved remote ++ rest).length <
        4 + remote.addressBytes.length + 2 := by
      rw [List.length_append]
      omega
    have htake : (answerWith status reserved remote ++ rest).take
        (4 + remote.addressBytes.length + 2) = answerWith status reserved remote :=
      List.take_left' hsize
    have hdrop : (answerWith status reserved remote ++ rest).drop
        (4 + remote.addressBytes.length + 2) = rest := List.drop_left' hsize
    have hstream : answerWith status reserved remote ++ rest =
        version :: status :: reserved :: remote.addressType :: first ::
          (more ++ portField remote.port ++ rest) := by
      rw [hanswer]
      rfl
    rw [hstream, cut_relayFraming hlength, ← hstream, if_neg hlong, htake, hdrop,
      ofRelayFrame_answerWith h]
    rfl

/-- The answer that echoes the address type, address and port of a request. -/
def echo (status reserved : UInt8) (request : Bytes) : Bytes :=
  version :: status :: reserved :: request.drop 3

/-- **The wire formats of SOCKS5 round-trip.** For all credentials and every
destination:

* the frame with the credentials, and the frame with the request, is refused as
  too large exactly if user name or password, or the host name, has more than
  255 characters;
* otherwise a server reads the frame off any stream that goes on behind it, and
  recovers the ASCII images of user name and password, or the command 1, the
  reserved 0, the type of the address, its octets or the ASCII image of the
  name, and the port;
* an answer of any status and any reserved byte that echoes the request, in any
  chunks, is no package before its last byte has come, and then it is one with
  just this status, reserved byte, address and port, and whatever follows is
  left;
* an ASCII image is read as the text itself, if the text is ASCII. -/
theorem frames_round_trip (c : Credentials) (remote : Destination) :
    RoundTrips (credentialsFrame c) (IsOverlong c) readCredentialsFrame
        (Charset.ascii.encode c.username, Charset.ascii.encode c.password) ∧
      RoundTrips (connectFrame remote) remote.IsOverlong readRequest (requestFor remote) ∧
      (∀ request, connectFrame remote = .ok request → ∀ status reserved,
        Answer.relayFraming.Yields (echo status reserved request)
          (.relay status reserved remote.bound)) ∧
      ∀ text, Utf8.decodeLossy (Charset.ascii.encode text) = asciiImage text ∧
        ((∀ ch ∈ text.toList, ch.toNat < 0x80) → asciiImage text = text) := by
  refine ⟨roundTrips_credentialsFrame c, roundTrips_connectFrame remote, ?_, ?_⟩
  · intro request hrequest status reserved
    -- a request that was written is not too long
    have hlong : ¬ remote.IsOverlong := by
      intro h
      obtain ⟨size, hrefused⟩ := connectFrame_of_isOverlong h
      rw [hrefused] at hrequest
      cases hrequest
    rw [connectFrame_of_not_isOverlong hlong] at hrequest
    cases hrequest
    exact yields_relayFraming hlong status reserved
  · intro text
    exact ⟨decodeLossy_encode_ascii text, asciiImage_of_ascii⟩

end Socks

end ProxyTunnel
