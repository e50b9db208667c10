/-
Which host names a proxy can tell apart.

A request for a tunnel names its destination in ASCII, with either protocol, and
ASCII has one byte for all the characters that it lacks. So a request tells the
ASCII image of a name and the port, and nothing else of the destination
(`Destination.named_requests_agree_iff`): two names are confused exactly if their
images are the same one. A name that is ASCII throughout is its own image, and is
never confused with another such name. A name with any other character has the
request of the name in which a question mark stands for it, and that is the name
which is decoded from it (`Destination.named_requests_confused`).

Equal frames have equal images because a decoder reads the image off the frame.
The request of HTTP has no such decoder: there the authority is found by its
length, which is the same in two requests of one length, and within the
authority the port is what stands behind the last colon.
-/
import ProxyTunnel.Proofs.SocksFrames
import ProxyTunnel.Proofs.RequestHead
import ProxyTunnel.Proofs.Destinations

set_option autoImplicit false

namespace ProxyTunnel

/-! ## What ASCII keeps -/

/-- A character and its image have the same byte. -/
theorem asciiByte_asciiChar (c : Char) : Charset.asciiByte (asciiChar c) = Charset.asciiByte c := by
  unfold asciiChar
  by_cases hc : c.toNat < 0x80
  · rw [if_pos hc]
  · rw [if_neg hc, Charset.asciiByte, Charset.asciiByte, if_neg hc]
    rfl

theorem encode_asciiImage (text : String) :
    Charset.ascii.encode (asciiImage text) = Charset.ascii.encode text := by
  simp [Charset.encode, asciiImage, asciiByte_asciiChar]

/-- The bytes of two texts are the same exactly if their images are. -/
theorem encode_ascii_eq_iff (a b : String) :
    Charset.ascii.encode a = Charset.ascii.encode b ↔ asciiImage a = asciiImage b := by
  constructor
  · intro h
    rw [← decodeLossy_encode_ascii, ← decodeLossy_encode_ascii, h]
  · intro h
    rw [← encode_asciiImage a, ← encode_asciiImage b, h]

/-- Only text in ASCII is its own image. -/
theorem asciiImage_eq_self_iff (text : String) :
    asciiImage text = text ↔ ∀ c ∈ text.toList, c.toNat < 0x80 := by
  constructor
  · intro h c hc
    -- a character of the image is one of ASCII
    rw [← h, asciiImage, String.toList_ofList] at hc
    obtain ⟨d, _, rfl⟩ := List.mem_map.1 hc
    unfold asciiChar
    by_cases hd : d.toNat < 0x80
    · rwa [if_pos hd]
    · rw [if_neg hd]
      decide
  · exact asciiImage_of_ascii

/-! ## The frame -/

namespace Socks

theorem counted_eq (text : String) :
    counted text = UInt8.ofNat (Charset.ascii.encode text).length :: Charset.ascii.encode text := by
  rw [Charset.length_encode_ascii]
  rfl

/-- The frame for a name is one that the decoder of addresses reads. -/
theorem readBound_connectFrame {remote : Destination} {bytes : Bytes}
    (h : connectFrame remote = .ok bytes) :
    Answer.readBound (bytes.drop 3) = .ok remote.bound := by
  by_cases hlong : remote.IsOverlong
  · obtain ⟨size, hrefused⟩ := connectFrame_of_isOverlong hlong
    rw [hrefused] at h
    cases h
  · rw [connectFrame_of_not_isOverlong hlong] at h
    cases h
    exact readBound_address hlong

/-- **Two names have the same frame exactly if they have the same image.** -/
theorem sameFrame_iff (name other : String) (port otherPort : UInt16) :
    (∃ bytes, connectFrame (.named name port) = .ok bytes ∧
      connectFrame (.named other otherPort) = .ok bytes) ↔
      name.length ≤ 255 ∧ asciiImage name = asciiImage other ∧ port = otherPort := by
  constructor
  · rintro ⟨bytes, hname, hother⟩
    have hfits : ¬ (Destination.named name port).IsOverlong := by
      intro hlong
      obtain ⟨size, hrefused⟩ := connectFrame_of_isOverlong hlong
      rw [hrefused] at hname
      cases hname
    -- both addresses are what is decoded from these bytes
    have hbound := (readBound_connectFrame hname).symm.trans (readBound_connectFrame hother)
    simp only [Destination.bound, Destination.boundHost, Destination.port, Except.ok.injEq,
      Socks.Bound.mk.injEq, BoundHost.named.injEq] at hbound
    exact ⟨Nat.le_of_not_lt hfits, hbound⟩
  · rintro ⟨hfits, himage, rfl⟩
    have hencode := (encode_ascii_eq_iff name other).2 himage
    have hlength : name.length = other.length := by
      rw [← Charset.length_encode_ascii, hencode, Charset.length_encode_ascii]
    have hcounted : counted name = counted other := by rw [counted_eq, counted_eq, hencode]
    refine ⟨_, connectFrame_of_not_isOverlong (Nat.not_lt.2 hfits), ?_⟩
    rw [connectFrame_of_not_isOverlong (Nat.not_lt.2 (hlength ▸ hfits))]
    simp only [Destination.addressType, Destination.addressBytes, Destination.port, hcounted]

end Socks

/-! ## The request -/

namespace Http

/-- A request tells its authority. -/
theorem request_eq_iff (remote other : Destination) (credentials : Option Credentials) :
    request remote credentials = request other credentials ↔ authority remote = authority other := by
  constructor
  · intro h
    rw [request_eq, request_eq] at h
    simp only [headLines, List.flatMap_cons, List.append_assoc] at h
    -- all but the two authorities has the same length in both
    have hlength := congrArg List.length h
    simp only [List.length_append] at hlength
    exact (List.append_inj (List.append_cancel_left h) (by omega)).1
  · intro h
    rw [request_eq, request_eq, headLines, headLines, h]

theorem decodeLossy_authority (name : String) (port : UInt16) :
    Utf8.decodeLossy (authority (.named name port)) =
      String.ofList ((asciiImage name).toList ++ Endpoint.writePort port) := by
  -- a colon and digits are their own image
  have hport : (Endpoint.writePort port).map asciiChar = (Endpoint.writePort port).map id := by
    apply List.map_congr_left
    intro c hc
    apply if_pos
    rcases List.mem_cons.1 hc with rfl | hdigit
    · decide
    · have hle := (Char.isDigit_iff_toNat.1 (Decimal.isDigit_of_mem_write hdigit)).2
      exact Nat.lt_of_le_of_lt hle (by decide)
  rw [authority, decodeLossy_encode_ascii, asciiImage, asciiImage, Destination.text,
    String.toList_ofList, String.toList_ofList, Destination.write, List.map_append, hport,
    List.map_id]

end Http

namespace Endpoint

theorem writePort_inj {port other : UInt16} (h : writePort port = writePort other) :
    port = other := by
  rw [← UInt16.toNat_inj, ← Decimal.value_write port.toNat, ← Decimal.value_write other.toNat,
    (List.cons.inj h).2]

/-- The port stands behind the last colon. -/
theorem append_writePort_inj {front behind : List Char} {port other : UInt16} :
    front ++ writePort port = behind ++ writePort other ↔ front = behind ∧ port = other := by
  constructor
  · intro h
    obtain ⟨hfront, hdigits⟩ := append_last_colon_inj (Decimal.colon_notMem_write _)
      (Decimal.colon_notMem_write _) h
    exact ⟨hfront, writePort_inj (congrArg (':' :: ·) hdigits)⟩
  · rintro ⟨rfl, rfl⟩
    rfl

end Endpoint

namespace Http

/-- **Two names have the same request exactly if they have the same image.** -/
theorem sameRequest_iff (name other : String) (port otherPort : UInt16)
    (credentials : Option Credentials) :
    request (.named name port) credentials = request (.named other otherPort) credentials ↔
      asciiImage name = asciiImage other ∧ port = otherPort := by
  rw [request_eq_iff]
  constructor
  · intro h
    have hdecoded := congrArg Utf8.decodeLossy h
    rw [decodeLossy_authority, decodeLossy_authority, String.ofList_inj,
      Endpoint.append_writePort_inj, String.toList_inj] at hdecoded
    exact hdecoded
  · rintro ⟨himage, rfl⟩
    have hencode := (encode_ascii_eq_iff name other).2 himage
    simp only [Charset.encode] at hencode
    rw [authority_eq, authority_eq, Destination.write, Destination.write, List.map_append,
      List.map_append, hencode]

end Http

/-! ## Both protocols -/

namespace Destination

/-- **A request tells the ASCII image of a name, and the port.** For any two
names and ports, and any credentials:

* SOCKS5 has one frame for both exactly if they have the same image and port,
  and the name has at most 255 characters, as every name of at most 255 bytes
  has;
* HTTP has one request for both exactly if they have the same image and port;
* what is decoded from the frame of a name is its image and the port;
* a name is its own image exactly if it is ASCII throughout. -/
theorem named_requests_agree_iff (name other : String) (port otherPort : UInt16)
    (credentials : Option Credentials) :
    ((∃ bytes, Socks.connectFrame (.named name port) = .ok bytes ∧
        Socks.connectFrame (.named other otherPort) = .ok bytes) ↔
      name.length ≤ 255 ∧ asciiImage name = asciiImage other ∧ port = otherPort) ∧
    (Http.request (.named name port) credentials =
        Http.request (.named other otherPort) credentials ↔
      asciiImage name = asciiImage other ∧ port = otherPort) ∧
    ((Utf8.encode name).length ≤ 255 → ∃ bytes, Socks.connectFrame (.named name port) = .ok bytes) ∧
    (∀ bytes, Socks.connectFrame (.named name port) = .ok bytes →
      Socks.Answer.readBound (bytes.drop 3) = .ok ⟨.named (asciiImage name), port⟩) ∧
    (asciiImage name = name ↔ ∀ c ∈ name.toList, c.toNat < 0x80) := by
  refine ⟨Socks.sameFrame_iff name other port otherPort,
    Http.sameRequest_iff name other port otherPort credentials, ?_,
    fun bytes h => Socks.readBound_connectFrame h, asciiImage_eq_self_iff name⟩
  intro hbytes
  exact ⟨_, Socks.connectFrame_of_not_isOverlong
    (Nat.not_lt.2 (Nat.le_trans (Charset.length_le_length_encode .utf8 name) hbytes))⟩

/-- Two names of two bytes each, for which both protocols have one request. What
is decoded from it is neither of them. -/
theorem named_requests_confused :
    Destination.named "é" 80 ≠ .named "ü" 80 ∧
      Socks.connectFrame (.named "é" 80) = .ok [5, 1, 0, 3, 1, 0x3F, 0, 80] ∧
      Socks.connectFrame (.named "ü" 80) = .ok [5, 1, 0, 3, 1, 0x3F, 0, 80] ∧
      Http.request (.named "é" 80) none = Http.request (.named "ü" 80) none ∧
      Socks.Answer.readBound [3, 1, 0x3F, 0, 80] = .ok ⟨.named "?", 80⟩ := by
  refine ⟨by decide, by rfl, by rfl, ?_, ?_⟩
  · exact (Http.sameRequest_iff _ _ _ _ _).2 ⟨by decide, rfl⟩
  · have hframe : Socks.connectFrame (.named "?" 80) = .ok [5, 1, 0, 3, 1, 0x3F, 0, 80] := by rfl
    exact Socks.readBound_connectFrame hframe

end Destination

end ProxyTunnel
