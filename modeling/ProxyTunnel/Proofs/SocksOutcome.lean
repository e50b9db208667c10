/-
The SOCKS5 handshake as a function of the bytes that the proxy sends.

`Socks.outcome` says what a handshake comes to, read off the whole stream of the
proxy at once: which frames are sent, written out byte by byte, how it ends and
which bytes it leaves to the tunnel. It knows of no framing rule, no buffer and
no dialogue. `Handshake.negotiate_socks` proves that every negotiation in a calm
environment comes to it, however the stream is cut into reads.
-/
import Mathlib.Control.Monad.Basic
import ProxyTunnel.Handshake
import ProxyTunnel.Proofs.Settlement

set_option autoImplicit false

namespace ProxyTunnel

open Event

namespace Socks

/-! ## The frames, byte by byte -/

/-- Text in ASCII behind its length. -/
def counted (text : String) : Bytes :=
  UInt8.ofNat text.length :: text.toList.map Charset.asciiByte

/-- The offer of methods. -/
def offerBytes (credentials : Option Credentials) : Bytes :=
  if credentials.isSome then [5, 2, 0, 2] else [5, 1, 0]

/-- User name and password, neither of more than 255 characters. -/
def credentialsBytes (c : Credentials) : Except WireError Bytes :=
  if 255 < c.username.length then .error (.tooLarge c.username.length)
  else if 255 < c.password.length then .error (.tooLarge c.password.length)
  else .ok (1 :: counted c.username ++ counted c.password)

/-- A port in two bytes. -/
def portBytes (port : UInt16) : Bytes := [UInt8.ofNat (port.toNat / 256), UInt8.ofNat port.toNat]

/-- The request for a tunnel; a name has at most 255 characters. -/
def connectBytes : Destination → Except WireError Bytes
  | .ip (.ip4 ip port) => .ok ([5, 1, 0, 1] ++ ip.octets ++ portBytes port)
  | .ip (.ip6 ip port _ _) => .ok ([5, 1, 0, 4] ++ ip.octets ++ portBytes port)
  | .named host port =>
    if 255 < host.length then .error (.tooLarge host.length)
    else .ok ([5, 1, 0, 3] ++ counted host ++ portBytes port)

/-! ## The outcome -/

/-- The length of the answer to a request, by its type byte and the byte after. -/
def answerLength (type first : UInt8) : Option Nat :=
  if type = ip4Type then some 10
  else if type = ip6Type then some 22
  else if type = nameType then some (7 + first.toNat)
  else none

/-- The verdict on a request. -/
def verdictOn (v code : UInt8) : Except Failure Unit :=
  if v ≠ 5 then .error (.wire (.wrongVersion v))
  else if code = 0 then .ok ()
  else .error (.socks (.rejected (Reply.ofByte code)))

/-- The answer to a request, and the bytes behind it. An answer of an unknown
type is left where it is. -/
def answerOutcome (stream : Bytes) : Except Failure Unit × Bytes :=
  match stream with
  | v :: code :: _ :: type :: first :: _ =>
    match answerLength type first with
    | none => (.error (.wire (.unknownAddressType type)), stream)
    | some length =>
      if stream.length < length then (.error .closed, stream)
      else (verdictOn v code, stream.drop length)
  | _ => (.error .closed, stream)

/-- From the request on. -/
def requestOutcome (remote : Destination) (stream : Bytes) : Ending :=
  match connectBytes remote with
  | .error e => ⟨.error (.wire e), [], stream⟩
  | .ok bytes => ⟨(answerOutcome stream).1, [bytes], (answerOutcome stream).2⟩

/-- From the credentials on. -/
def credentialsOutcome (c : Credentials) (remote : Destination) (stream : Bytes) : Ending :=
  match credentialsBytes c with
  | .error e => ⟨.error (.wire e), [], stream⟩
  | .ok bytes =>
    match stream with
    | _ :: status :: rest =>
      if status = 0 then (requestOutcome remote rest).behind bytes
      else ⟨.error (.socks .credentialsRejected), [bytes], rest⟩
    | _ => ⟨.error .closed, [bytes], stream⟩

/-- The end of a handshake whose proxy asks for what was not offered. -/
def violation (method : UInt8) : Failure :=
  .socks (.protocolViolation ("proxy selected method " ++ (Method.ofByte method).name))

/-- From the method on that the proxy selects. -/
def methodOutcome (credentials : Option Credentials) (remote : Destination) (method : UInt8)
    (stream : Bytes) : Ending :=
  if method = 0 then requestOutcome remote stream
  else match credentials with
    | some c =>
      if method = 2 then credentialsOutcome c remote stream
      else ⟨.error (violation method), [], stream⟩
    | none => ⟨.error (violation method), [], stream⟩

/-- The credentials that count: both parts have more than blank characters. -/
def inUse (credentials : Option Credentials) : Option Credentials :=
  credentials.filter fun c => !(Text.blank c.username || Text.blank c.password)

/-- The whole handshake. -/
def outcome (credentials : Option Credentials) (remote : Destination) (stream : Bytes) : Ending :=
  Ending.behind (offerBytes (inUse credentials)) <|
    match stream with
    | v :: method :: rest =>
      if v ≠ 5 then ⟨.error (.wire (.wrongVersion v)), [], rest⟩
      else methodOutcome (inUse credentials) remote method rest
    | _ => ⟨.error .closed, [], stream⟩

/-! ## The frames are those that the handshake sends -/

theorem effective_eq_inUse (credentials : Option Credentials) :
    effective credentials = inUse credentials := by
  unfold effective inUse Credentials.isVisible
  congr 1
  funext c
  rw [Bool.not_or]

theorem greeting_eq (credentials : Option Credentials) :
    greeting (offered credentials) = offerBytes credentials := by
  cases credentials <;> rfl

theorem encodeCounted_ascii (text : String) :
    Item.encodeCounted .ascii text =
      if 255 < text.length then .error (.tooLarge text.length) else .ok (counted text) := by
  unfold Item.encodeCounted
  dsimp only
  rw [Charset.length_encode_ascii]
  by_cases h : 255 < text.length
  · rw [if_pos h, Item.maxCount, if_pos h]
  · rw [if_neg h, Item.maxCount, if_neg h, if_neg h]
    rfl

theorem credentialsFrame_eq (c : Credentials) : credentialsFrame c = credentialsBytes c := by
  unfold credentialsFrame credentialsBytes
  rw [encodeCounted_ascii, encodeCounted_ascii]
  by_cases hu : 255 < c.username.length
  · rw [if_pos hu, if_pos hu]
    rfl
  by_cases hp : 255 < c.password.length
  · rw [if_neg hu, if_neg hu, if_pos hp, if_pos hp]
    rfl
  · rw [if_neg hu, if_neg hu, if_neg hp, if_neg hp]
    simp [concatParts, Except.map, credentialsVersion]

theorem connectFrame_eq (remote : Destination) : connectFrame remote = connectBytes remote := by
  rcases remote with ⟨host, port⟩ | ⟨ip, port⟩ | ⟨ip, port, flow, scope⟩
  · unfold connectFrame connectBytes addressField
    dsimp only
    rw [encodeCounted_ascii]
    by_cases h : 255 < host.length
    · rw [if_pos h, if_pos h]
      rfl
    · rw [if_neg h, if_neg h]
      simp [concatParts, Except.map, version, connectCommand, nameType, portField, portBytes,
        BigEndian.ofNat, Destination.port]
  · rfl
  · rfl

/-! ## The answers, cut off a whole stream -/

/-- Fewer bytes than a frame of fixed size has are no frame. -/
theorem pick_fixed_short {α : Type} {size : UInt64}
    {decode : Bytes → Except WireError (α × Option (Framing α))} {stream : Bytes}
    (h : stream.length < size.toNat) :
    Framing.pick (some (.fixed size decode)) stream =
      (.error .closed, some (.fixed size decode), stream) := by
  apply Framing.pick_of_waiting
  unfold Framing.cut Framing.cutFrame
  dsimp only
  rw [if_pos h]

theorem pick_framing_short {stream : Bytes} (h : stream.length < 2) :
    Framing.pick (some Answer.framing) stream = (.error .closed, some Answer.framing, stream) :=
  pick_fixed_short h

theorem pick_framing (v code : UInt8) (rest : Bytes) :
    Framing.pick (some Answer.framing) (v :: code :: rest) =
      if v ≠ 5 then (.error (.wire (.wrongVersion v)), none, rest)
      else (.ok (.method code),
        some (if code = 2 then Answer.verdictFraming else Answer.relayFraming), rest) := by
  have hcut : Answer.framing.cut (v :: code :: rest) =
      ⟨Framing.ofDecoded (Answer.ofMethodFrame [v, code]), Answer.framing, rest⟩ := rfl
  by_cases hv : v ≠ 5
  · have hdecode : Answer.ofMethodFrame [v, code] = .error (.wrongVersion v) := by
      unfold Answer.ofMethodFrame
      exact if_pos hv
    have hanswer : (Answer.framing.cut (v :: code :: rest)).answer =
        .refused (.wrongVersion v) := by
      rw [hcut, hdecode]
      rfl
    rw [if_pos hv, Framing.pick_of_refused hanswer, hcut]
  · have hdecode : Answer.ofMethodFrame [v, code] = .ok (.method code,
        some (if code = 2 then Answer.verdictFraming else Answer.relayFraming)) := by
      unfold Answer.ofMethodFrame
      exact if_neg hv
    have hanswer : (Answer.framing.cut (v :: code :: rest)).answer = .package (.method code)
        (some (if code = 2 then Answer.verdictFraming else Answer.relayFraming)) := by
      rw [hcut, hdecode]
      rfl
    rw [if_neg hv, Framing.pick_of_package hanswer, hcut]
    rfl

theorem pick_verdictFraming_short {stream : Bytes} (h : stream.length < 2) :
    Framing.pick (some Answer.verdictFraming) stream =
      (.error .closed, some Answer.verdictFraming, stream) :=
  pick_fixed_short h

theorem pick_verdictFraming (v status : UInt8) (rest : Bytes) :
    Framing.pick (some Answer.verdictFraming) (v :: status :: rest) =
      (.ok (.verdict v status), some Answer.relayFraming, rest) := by
  have hanswer : (Answer.verdictFraming.cut (v :: status :: rest)).answer =
      .package (.verdict v status) (some Answer.relayFraming) := rfl
  rw [Framing.pick_of_package hanswer]
  rfl

/-- The body that a header declares makes an answer as long as its type wants,
and no longer than 262 bytes. -/
theorem bodyLength_eq (header : Bytes) :
    (∃ size, Answer.bodyLength header = .ok size ∧ (5 + size).toNat ≤ 262 ∧
      answerLength (header.getD 3 0) (header.getD 4 0) = some (5 + size).toNat) ∨
    Answer.bodyLength header = .error (.unknownAddressType (header.getD 3 0)) ∧
      answerLength (header.getD 3 0) (header.getD 4 0) = none := by
  unfold Answer.bodyLength answerLength
  dsimp only
  by_cases h4 : header.getD 3 0 = ip4Type
  · rw [if_pos h4, if_pos h4]
    exact .inl ⟨_, rfl, by decide, rfl⟩
  by_cases h6 : header.getD 3 0 = ip6Type
  · rw [if_neg h4, if_neg h4, if_pos h6, if_pos h6]
    exact .inl ⟨_, rfl, by decide, rfl⟩
  by_cases hn : header.getD 3 0 = nameType
  · have hbyte := (header.getD 4 0).toNat_lt
    -- the sum of the program wraps around, but not for the length of a name
    have hsum : (5 + ((header.getD 4 0).toUInt64 + 2)).toNat = 7 + (header.getD 4 0).toNat := by
      rw [UInt64.toNat_add, UInt64.toNat_add, UInt8.toNat_toUInt64]
      change (5 + ((header.getD 4 0).toNat + 2) % 2 ^ 64) % 2 ^ 64 = _
      omega
    rw [if_neg h4, if_neg h4, if_neg h6, if_neg h6, if_pos hn, if_pos hn]
    exact .inl ⟨_, rfl, by omega, by rw [hsum]⟩
  · rw [if_neg h4, if_neg h4, if_neg h6, if_neg h6, if_neg hn, if_neg hn]
    exact .inr ⟨rfl, rfl⟩

theorem length_pairUp (octets : Bytes) : (Ip6.pairUp octets).length = octets.length / 2 := by
  fun_induction Ip6.pairUp octets with
  | case1 high low rest ih =>
    rw [List.length_cons, ih, List.length_cons, List.length_cons]
    omega
  | case2 octets h =>
    rcases octets with _ | ⟨a, _ | ⟨b, rest⟩⟩
    · rfl
    · simp
    · exact absurd rfl (h a b rest)

/-- An answer of the length that its type wants has an address. -/
theorem readBound_of_length {v code reserved type first : UInt8} {rest : Bytes} {length : Nat}
    (htype : answerLength type first = some length)
    (h : (v :: code :: reserved :: type :: first :: rest).length = length) :
    ∃ bound, Answer.readBound (type :: first :: rest) = .ok bound := by
  have hhost : ∃ host after, Answer.readHost type (first :: rest) = some (host, after) := by
    unfold answerLength at htype
    unfold Answer.readHost
    simp only [List.length_cons] at h
    -- by the type of the address: the length of the answer is what each of them reads
    by_cases h4 : type = ip4Type
    · rw [if_pos h4] at htype ⊢
      cases htype
      obtain ⟨a, b, c, d, e, rfl⟩ : ∃ a b c d e, rest = [a, b, c, d, e] := by
        rcases rest with _ | ⟨a, _ | ⟨b, _ | ⟨c, _ | ⟨d, _ | ⟨e, _ | ⟨f, rest⟩⟩⟩⟩⟩⟩
        all_goals simp only [List.length_cons, List.length_nil] at h
        all_goals first | omega | exact ⟨a, b, c, d, e, rfl⟩
      exact ⟨_, _, rfl⟩
    by_cases h6 : type = ip6Type
    · rw [if_neg h4] at htype ⊢
      rw [if_pos h6] at htype ⊢
      cases htype
      have hlen : ((first :: rest).take 16).length = 16 := by
        rw [List.length_take, List.length_cons]
        omega
      have hgroups : (Ip6.pairUp ((first :: rest).take 16)).length = 8 := by
        rw [length_pairUp, hlen]
      rw [Ip6.ofOctets?, if_pos hlen, Ip6.ofGroups?, dif_pos hgroups]
      exact ⟨_, _, rfl⟩
    by_cases hn : type = nameType
    · rw [if_neg h4, if_neg h6] at htype ⊢
      rw [if_pos hn] at htype ⊢
      cases htype
      have hlong : ¬ rest.length < first.toNat := by omega
      rw [Item.readCounted, if_neg hlong]
      exact ⟨_, _, rfl⟩
    · rw [if_neg h4, if_neg h6, if_neg hn] at htype
      cases htype
  obtain ⟨host, after, hhost⟩ := hhost
  refine ⟨⟨host, UInt16.ofNat (BigEndian.toNat (after.take 2))⟩, ?_⟩
  have hread : Answer.readHost ((type :: first :: rest).getD 0 0)
      ((type :: first :: rest).drop 1) = some (host, after) := hhost
  unfold Answer.readBound
  dsimp only
  rw [hread]

/-- Fewer bytes than a header has are no answer. -/
theorem pick_relayFraming_short {stream : Bytes} (h : stream.length < 5) :
    Framing.pick (some Answer.relayFraming) stream =
      (.error .closed, some Answer.relayFraming, stream) := by
  apply Framing.pick_of_waiting
  change (Framing.cutHeaded _ 5 _ _ stream).answer = _
  exact congrArg Framing.Cut.answer (if_pos h)

section

variable {v code reserved type first : UInt8} {rest : Bytes}

/-- An answer of an unknown type is refused by its header. -/
theorem pick_relayFraming_unknown (h : answerLength type first = none) :
    Framing.pick (some Answer.relayFraming) (v :: code :: reserved :: type :: first :: rest) =
      (.error (.wire (.unknownAddressType type)), none,
        v :: code :: reserved :: type :: first :: rest) := by
  rcases bodyLength_eq [v, code, reserved, type, first] with ⟨size, _, _, hsome⟩ | ⟨hbody, _⟩
  · cases h.symm.trans hsome
  · have hcut : Answer.relayFraming.cut (v :: code :: reserved :: type :: first :: rest) =
        ⟨.refused (.unknownAddressType type), Answer.relayFraming,
          v :: code :: reserved :: type :: first :: rest⟩ := by
      change Framing.cutHeaded _ 5 _ _ _ = _
      have hheader : Answer.bodyLength
          ((v :: code :: reserved :: type :: first :: rest).take (5 : UInt64).toNat) =
            .error (.unknownAddressType type) := hbody
      unfold Framing.cutHeaded
      rw [if_neg (by simp), hheader]
    rw [Framing.pick_of_refused (by rw [hcut]), hcut]

/-- An answer of a known type is cut off as a frame of its length. -/
theorem cut_relayFraming {length : Nat} (h : answerLength type first = some length) :
    Answer.relayFraming.cut (v :: code :: reserved :: type :: first :: rest) =
      if (v :: code :: reserved :: type :: first :: rest).length < length then
        ⟨.waiting, Answer.relayFraming, v :: code :: reserved :: type :: first :: rest⟩
      else
        ⟨Framing.ofDecoded (Answer.ofRelayFrame
          ((v :: code :: reserved :: type :: first :: rest).take length)), Answer.relayFraming,
          (v :: code :: reserved :: type :: first :: rest).drop length⟩ := by
  rcases bodyLength_eq [v, code, reserved, type, first] with ⟨size, hbody, _, hsome⟩ | ⟨_, hnone⟩
  · obtain rfl : (5 + size).toNat = length := Option.some.inj (hsome.symm.trans h)
    change Framing.cutHeaded _ 5 _ _ _ = _
    have hheader : Answer.bodyLength
        ((v :: code :: reserved :: type :: first :: rest).take (5 : UInt64).toNat) = .ok size :=
      hbody
    unfold Framing.cutHeaded
    rw [if_neg (by simp), hheader]
    rfl
  · cases hnone.symm.trans h

/-- An answer that is there as a whole is decoded, unless its version is wrong. -/
theorem ofRelayFrame_take {length : Nat} (h : answerLength type first = some length)
    (hlong : ¬ (v :: code :: reserved :: type :: first :: rest).length < length) :
    (v ≠ 5 ∧ Answer.ofRelayFrame ((v :: code :: reserved :: type :: first :: rest).take length) =
      .error (.wrongVersion v)) ∨
    ∃ bound, v = 5 ∧ Answer.ofRelayFrame
      ((v :: code :: reserved :: type :: first :: rest).take length) =
        .ok (.relay code reserved bound, none) := by
  -- the header is part of every answer
  obtain ⟨k, rfl⟩ : ∃ k, length = k + 5 := by
    unfold answerLength at h
    split at h
    · exact ⟨5, (Option.some.inj h).symm⟩
    · split at h
      · exact ⟨17, (Option.some.inj h).symm⟩
      · split at h
        · exact ⟨2 + first.toNat, by have := Option.some.inj h; omega⟩
        · cases h
  have htake : (v :: code :: reserved :: type :: first :: rest).take (k + 5) =
      v :: code :: reserved :: type :: first :: rest.take k := rfl
  have hlen : (v :: code :: reserved :: type :: first :: rest.take k).length = k + 5 := by
    rw [← htake, List.length_take]
    omega
  obtain ⟨bound, hbound⟩ := readBound_of_length h hlen
  rw [htake]
  by_cases hv : v = 5
  · refine .inr ⟨bound, hv, ?_⟩
    have hversion : ¬ v ≠ version := by
      intro hne
      exact hne hv
    unfold Answer.ofRelayFrame
    refine (if_neg hversion).trans ?_
    change (Answer.readBound (type :: first :: rest.take k)).map _ = _
    rw [hbound]
    rfl
  · refine .inl ⟨hv, ?_⟩
    unfold Answer.ofRelayFrame
    exact if_pos hv

/-- Part of an answer is none yet. -/
theorem pick_relayFraming_part {length : Nat} (h : answerLength type first = some length)
    (hshort : (v :: code :: reserved :: type :: first :: rest).length < length) :
    Framing.pick (some Answer.relayFraming) (v :: code :: reserved :: type :: first :: rest) =
      (.error .closed, some Answer.relayFraming,
        v :: code :: reserved :: type :: first :: rest) := by
  apply Framing.pick_of_waiting
  rw [cut_relayFraming h, if_pos hshort]

/-- A whole answer of the wrong version is refused and used up. -/
theorem pick_relayFraming_wrong {length : Nat} (h : answerLength type first = some length)
    (hlong : ¬ (v :: code :: reserved :: type :: first :: rest).length < length) (hv : v ≠ 5) :
    Framing.pick (some Answer.relayFraming) (v :: code :: reserved :: type :: first :: rest) =
      (.error (.wire (.wrongVersion v)), none,
        (v :: code :: reserved :: type :: first :: rest).drop length) := by
  have hcut := @cut_relayFraming v code reserved type first rest length h
  rw [if_neg hlong] at hcut
  rcases ofRelayFrame_take h hlong with ⟨_, hframe⟩ | ⟨_, hfive, _⟩
  · rw [hframe] at hcut
    rw [Framing.pick_of_refused (by rw [hcut]; rfl), hcut]
  · exact absurd hfive hv

/-- A whole answer is a package. -/
theorem pick_relayFraming {length : Nat} (h : answerLength type first = some length)
    (hlong : ¬ (v :: code :: reserved :: type :: first :: rest).length < length) (hv : v = 5) :
    ∃ bound, Framing.pick (some Answer.relayFraming)
        (v :: code :: reserved :: type :: first :: rest) =
      (.ok (.relay code reserved bound), some Answer.relayFraming,
        (v :: code :: reserved :: type :: first :: rest).drop length) := by
  have hcut := @cut_relayFraming v code reserved type first rest length h
  rw [if_neg hlong] at hcut
  rcases ofRelayFrame_take h hlong with ⟨hne, _⟩ | ⟨bound, _, hframe⟩
  · exact absurd hv hne
  · refine ⟨bound, ?_⟩
    have hanswer : (Answer.relayFraming.cut
        (v :: code :: reserved :: type :: first :: rest)).answer =
          .package (.relay code reserved bound) none := by
      rw [hcut, hframe]
      rfl
    rw [Framing.pick_of_package hanswer, hcut]
    rfl

end

/-! ## The dialogues come to the outcomes -/

theorem ofByte_eq_succeeded {code : UInt8} : Reply.ofByte code = .succeeded ↔ code = 0 := by
  constructor
  · intro h
    rw [← Reply.toByte_ofByte code, h]
    rfl
  · rintro rfl
    rfl

/-- The end of a request, by the code of its answer. -/
theorem settle_reply (n : Notice) (code : UInt8) (rule : Option (Framing Answer))
    (stream : Bytes) :
    (match Reply.ofByte code with
      | .succeeded => Dialogue.note n (.finish (.ok ()))
      | reply => .finish (.error (.socks (.rejected reply)))).settle rule stream =
      ⟨verdictOn 5 code, [], stream⟩ := by
  unfold verdictOn
  rw [if_neg (fun h => h rfl)]
  by_cases hcode : code = 0
  · rw [if_pos hcode, ofByte_eq_succeeded.2 hcode]
    rfl
  · rw [if_neg hcode]
    rcases hreply : Reply.ofByte code
    · exact absurd (ofByte_eq_succeeded.1 hreply) hcode
    all_goals rfl

theorem settle_request (remote : Destination) (stream : Bytes) :
    (requestDialogue remote).settle (some Answer.relayFraming) stream =
      requestOutcome remote stream := by
  unfold requestDialogue requestOutcome
  rw [Dialogue.settle, connectFrame_eq]
  rcases connectBytes remote with e | bytes
  · rfl
  rw [Dialogue.settle, Dialogue.settle]
  -- a stream without a whole header leaves the rule waiting
  rcases stream with _ | ⟨v, _ | ⟨code, _ | ⟨reserved, _ | ⟨type, _ | ⟨first, rest⟩⟩⟩⟩⟩
  · rw [pick_relayFraming_short (by simp)]
    rfl
  · rw [pick_relayFraming_short (by simp)]
    rfl
  · rw [pick_relayFraming_short (by simp)]
    rfl
  · rw [pick_relayFraming_short (by simp)]
    rfl
  · rw [pick_relayFraming_short (by simp)]
    rfl
  unfold answerOutcome
  dsimp only
  rcases hlength : answerLength type first with _ | length
  · rw [pick_relayFraming_unknown hlength]
    rfl
  dsimp only
  by_cases hshort : (v :: code :: reserved :: type :: first :: rest).length < length
  · rw [pick_relayFraming_part hlength hshort, if_pos hshort]
    rfl
  rw [if_neg hshort]
  by_cases hv : v = 5
  · obtain ⟨bound, hpick⟩ := @pick_relayFraming v code reserved type first rest _ hlength hshort hv
    rw [hpick, hv]
    exact congrArg (Ending.behind bytes) (settle_reply _ code _ _)
  · rw [pick_relayFraming_wrong hlength hshort hv, verdictOn, if_pos hv]
    rfl

theorem settle_credentials (c : Credentials) (remote : Destination) (stream : Bytes) :
    (credentialsDialogue c remote).settle (some Answer.verdictFraming) stream =
      credentialsOutcome c remote stream := by
  unfold credentialsDialogue credentialsOutcome
  rw [Dialogue.settle, credentialsFrame_eq]
  rcases credentialsBytes c with e | bytes
  · rfl
  rw [Dialogue.settle, Dialogue.settle]
  rcases stream with _ | ⟨v, _ | ⟨status, rest⟩⟩
  · rw [pick_verdictFraming_short (by simp)]
    rfl
  · rw [pick_verdictFraming_short (by simp)]
    rfl
  rw [pick_verdictFraming]
  dsimp only
  by_cases hstatus : (Answer.verdict v status).status = 0
  · have hzero : status = 0 := hstatus
    rw [if_pos hstatus, if_pos hzero, settle_request]
  · have hne : ¬ status = 0 := hstatus
    rw [if_neg hstatus, if_neg hne]
    rfl

/-- A method that is neither of the two that a client knows ends the handshake. -/
theorem afterMethod_of_ne {code : UInt8} (h0 : code ≠ 0) (h2 : code ≠ 2)
    (credentials : Option Credentials) (remote : Destination) :
    afterMethod credentials remote (Method.ofByte code) =
      .finish (.error (violation code)) := by
  -- the byte of a method determines it, so only one byte is read as each of the two
  have hback := Method.toByte_ofByte code
  unfold violation
  rcases hm : Method.ofByte code
  all_goals rw [hm] at hback
  · exact absurd hback.symm h0
  · rfl
  · exact absurd hback.symm h2
  · rfl
  · rfl

theorem settle_method (credentials : Option Credentials) (remote : Destination) (code : UInt8)
    (stream : Bytes) :
    (afterMethod credentials remote (Method.ofByte code)).settle
        (some (if code = 2 then Answer.verdictFraming else Answer.relayFraming)) stream =
      methodOutcome credentials remote code stream := by
  unfold methodOutcome
  by_cases h0 : code = 0
  · rw [if_pos h0, h0]
    exact settle_request remote stream
  rw [if_neg h0]
  by_cases h2 : code = 2
  · rw [h2, if_pos rfl]
    rcases credentials with _ | c
    · rfl
    · exact settle_credentials c remote stream
  · rw [afterMethod_of_ne h0 h2]
    rcases credentials with _ | c
    · rfl
    · dsimp only
      rw [if_neg h2, if_neg h2]
      rfl

theorem settle_dialogue (credentials : Option Credentials) (remote : Destination)
    (stream : Bytes) :
    (dialogue (effective credentials) remote).settle (some Answer.framing) stream =
      outcome credentials remote stream := by
  unfold dialogue outcome
  rw [Dialogue.settle, Dialogue.settle, greeting_eq, effective_eq_inUse]
  congr 1
  rcases stream with _ | ⟨v, _ | ⟨code, rest⟩⟩
  · rw [pick_framing_short (by simp)]
  · rw [pick_framing_short (by simp)]
  rw [pick_framing]
  by_cases hv : v ≠ 5
  · rw [if_pos hv]
    dsimp only
    rw [if_pos hv]
  · rw [if_neg hv]
    dsimp only [Answer.status]
    rw [if_neg hv]
    exact settle_method _ remote code rest

/-! ## The longest frame -/

theorem fits_relayFraming : Answer.relayFraming.Fits 262 := by
  refine .headed (by decide) ?_ ?_
  · intro header size h
    rcases bodyLength_eq header with ⟨size', hbody, hle, _⟩ | ⟨hbody, _⟩
    · cases hbody.symm.trans h
      exact hle
    · cases hbody.symm.trans h
  · intro frame content rule h
    unfold Answer.ofRelayFrame at h
    split at h
    · cases h
    · rcases hb : Answer.readBound (frame.drop 3) with e | bound
      all_goals rw [hb] at h; cases h

theorem fits_verdictFraming : Answer.verdictFraming.Fits 262 := by
  refine .fixed (by decide) ?_
  intro frame content rule h
  cases h
  exact fits_relayFraming

theorem fits_framing : Answer.framing.Fits 262 := by
  refine .fixed (by decide) ?_
  intro frame content rule h
  unfold Answer.ofMethodFrame at h
  split at h
  · cases h
  · cases h
    split
    · exact fits_verdictFraming
    · exact fits_relayFraming

end Socks

/-! ## Negotiations -/

/-- **A SOCKS5 negotiation is a function of what the proxy sends.** If nothing
fails and nobody cancels, then whatever the cuts, the waits and the size of
reads are, the result, the frames on the wire, each of them flushed, and the
bytes that the tunnel goes on with are those of `Socks.outcome`. -/
theorem Handshake.negotiate_socks (credentials : Option Credentials) (remote : Destination)
    (limits : Limits) (supervised : Bool) (t : Tunnel)
    (hcalm : t.socket.Calm Session.attemptToken) (hroom : 262 ≤ limits.maxPackage) :
    let after := (Handshake.mk .socks5 credentials).negotiate remote
      (Session.start t limits supervised)
    let expected := Socks.outcome credentials remote t.unread
    after.1 = expected.result ∧
      (∃ events, t.socket.journal.Gains after.2.journal events ∧
        parts events = (expected.frames, [])) ∧
      after.2.buffer ++ after.2.tunnel.unread = expected.rest ∧
      ∀ room, 0 < room → (after.2.detach.readToEnd room).1 = .ok expected.rest := by
  have hs := Session.settled_start hcalm hroom supervised
  have hfit : Framing.AllFit 262 (some Socks.Answer.framing) := by
    rintro r ⟨⟩
    exact Socks.fits_framing
  have key := Dialogue.run_of_settled (Socks.dialogue (Socks.effective credentials) remote)
    (Socks.fits_framing.resumed []) hfit hs
  rw [Socks.settle_dialogue] at key
  intro after expected
  refine ⟨key.result, key.sent, key.rest, ?_⟩
  intro room hr
  rw [← show _ = expected.rest from key.rest]
  exact Session.readToEnd_detach key.settled hr

/-- The answers of a proxy, cut in the middle of the first and behind the
second, with a byte of the tunnel at their end. -/
def splitAnswers : Tunnel :=
  .ofSocket ⟨[.ready [5], .pending, .ready [0, 5, 0, 0, 1, 127, 0, 0, 1, 0], .ready [80, 42]],
    [.ready (some 1), .pending], [], [], []⟩

theorem Handshake.negotiate_socks_split :
    ((Handshake.mk .socks5 none).negotiate (.named "a" 80)
        (Session.start splitAnswers ⟨1, 262⟩ true)).1 = .ok () ∧
      (((Handshake.mk .socks5 none).negotiate (.named "a" 80)
        (Session.start splitAnswers ⟨1, 262⟩ true)).2.detach.readToEnd 7).1 = .ok [42] := by
  have hcalm : splitAnswers.socket.Calm Session.attemptToken := by
    refine ⟨rfl, ?_, ?_, Script.calm_nil⟩
    · simp [splitAnswers, Tunnel.ofSocket, Step.Calm]
    · simp [splitAnswers, Tunnel.ofSocket, Step.Calm]
  obtain ⟨hresult, _, _, hrest⟩ := Handshake.negotiate_socks none (.named "a" 80) ⟨1, 262⟩ true
    splitAnswers hcalm (Nat.le_refl _)
  refine ⟨hresult.trans ?_, (hrest 7 (by decide)).trans ?_⟩
  · decide +kernel
  · decide +kernel

end ProxyTunnel
