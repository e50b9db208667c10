/-
Credentials do not leak.

A password is sent in one place: in the frame of a SOCKS5 client that carries it, or
in the line of an HTTP request that proves who asks. Whatever the environment does,
nothing else in an attempt depends on it but for its length. Two attempts whose
passwords are of one length end alike and leave the same behind, once the bytes of
every write are veiled, and outside of those places they wrote the same. If a SOCKS5
proxy does not select credentials, not even the length matters, nor who asks
(`Route.connect_conceals`).

Veiling what was written is a disguise, for nothing reads it back. It makes the two
attempts one, for their frames are of one length.
-/
import ProxyTunnel.Proofs.Cancellation
import ProxyTunnel.Proofs.Disguise
import ProxyTunnel.Proofs.Phases
import ProxyTunnel.Proofs.RequestHead

set_option autoImplicit false

namespace ProxyTunnel

open Event

/-! ## The veil -/

/-- Zeros in place of bytes. -/
def veilBytes (bytes : Bytes) : Bytes := bytes.map fun _ => 0

/-- Of what was written one sees how much it was. -/
def Entry.veiled : Entry → Entry
  | .event (.wrote bytes) => .event (.wrote (veilBytes bytes))
  | other => other

theorem Script.poll_veiled {α : Type} (rest : α) (script : Script α) (journal : Journal) :
    poll rest script (journal.map Entry.veiled) = ((poll rest script journal).1,
      (poll rest script journal).2.1, (poll rest script journal).2.2.map Entry.veiled) := by
  have hmore : ∀ (journal : Journal) (entry : Entry), entry.veiled = entry →
      journal.map Entry.veiled ++ [entry] = (journal ++ [entry]).map Entry.veiled := by
    intro journal entry h
    rw [List.map_append, List.map_singleton, h]
  induction script generalizing journal with
  | nil => rfl
  | cons step script ih =>
    rcases step with value | e | _ | token
    · rfl
    · rfl
    · unfold poll
      rw [hmore journal .yielded rfl]
    · unfold poll
      rw [hmore journal (.fired token) rfl]
      exact ih _

theorem Journal.hasFired_veiled (journal : Journal) (token : Nat) :
    hasFired (journal.map Entry.veiled) token = journal.hasFired token := by
  unfold hasFired
  rw [Bool.eq_iff_iff, List.contains_iff_mem, List.contains_iff_mem, List.mem_map]
  constructor
  · rintro ⟨entry, hentry, hveiled⟩
    rcases entry with e | n | t | _ | _
    · cases e <;> cases hveiled
    all_goals cases hveiled
    exact hentry
  · intro h
    exact ⟨_, h, rfl⟩

/-- What callers are told shows under the veil. -/
theorem Journal.notices_veiled (journal : Journal) :
    notices (journal.map Entry.veiled) = journal.notices := by
  have hnotice : ∀ entry : Entry, notice? entry.veiled = notice? entry := by
    intro entry
    rcases entry with e | n | t | _ | _
    · cases e <;> rfl
    all_goals rfl
  unfold notices
  rw [List.filterMap_map]
  exact congrArg (fun notice? => journal.filterMap notice?) (funext hnotice)

/-- The socket with a veil over what it took. -/
def Socket.veiled (s : Socket) : Socket := { s with journal := s.journal.map Entry.veiled }

/-- Nobody notices the veil. -/
def veil : Disguise where
  socket := Socket.veiled
  bytes := veilBytes
  length_bytes _ := List.length_map _
  bytes_drop _ _ := List.map_drop
  hasFired_socket token s := Journal.hasFired_veiled s.journal token
  unread_socket _ := rfl
  record_socket n s := by
    simp [Socket.record, Socket.veiled, Entry.veiled]
  pollRead_socket room s := by
    unfold Socket.pollRead Socket.veiled
    dsimp only
    rw [Script.poll_veiled]
    rcases Script.poll [] s.reads s.journal with ⟨(e | bytes) | _, reads, journal⟩
    all_goals simp [Entry.veiled]
  pollWrite_socket bytes s := by
    unfold Socket.pollWrite Socket.veiled
    dsimp only
    rw [Script.poll_veiled]
    rcases Script.poll none s.writes s.journal with ⟨(e | limit) | _, writes, journal⟩
    all_goals simp [Entry.veiled, veilBytes, List.map_take]
  pollFlush_socket s := by
    unfold Socket.pollFlush Socket.veiled
    dsimp only
    rw [Script.poll_veiled]
    rcases Script.poll () s.flushes s.journal with ⟨(e | _) | _, flushes, journal⟩
    all_goals simp [Entry.veiled]

/-- Frames of one length are one under the veil. -/
theorem veil_frame_congr {a b : Bytes} (h : a.length = b.length) :
    veil.frame (.ok a) = veil.frame (.ok b) := by
  have hbytes : veilBytes a = veilBytes b := by
    unfold veilBytes
    rw [List.map_const', List.map_const', h]
  exact congrArg Except.ok hbytes

/-! ## The end of an attempt -/

theorem Sender.dispose_veiled (s : Sender) : (veil.sender s).dispose = veil.sender s.dispose := by
  have hrun : Socket.shuttingDown.run s.socket.veiled = ((Socket.shuttingDown.run s.socket).1,
      (Socket.shuttingDown.run s.socket).2.veiled) := by
    refine Operation.await_change _ (fun _ => none) Socket.veiled ?_ (fun _ => rfl) s.socket
    intro s
    change Socket.pollShutDown s.veiled = (s.pollShutDown.1, s.pollShutDown.2.veiled)
    unfold Socket.pollShutDown Socket.veiled
    dsimp only
    rw [Script.poll_veiled]
    rcases Script.poll () s.shutDowns s.journal with ⟨(e | _) | _, shutDowns, journal⟩
    all_goals simp [Entry.veiled]
  have hsocket : (veil.sender s).socket = s.socket.veiled := rfl
  have hgone : (veil.sender s).disposed = s.disposed := rfl
  unfold dispose
  rw [hgone, hsocket, hrun]
  split
  · rfl
  · rcases Socket.shuttingDown.run s.socket with ⟨e | ⟨⟩, socket⟩
    · change Sender.mk (socket.veiled.record _) true = Sender.mk (socket.record _).veiled true
      rw [show socket.veiled.record (.notice (.shutDownFailed e)) = _ from
        veil.record_socket (.shutDownFailed e) socket]
      rfl
    · rfl

theorem Session.close_veiled (reason : CloseReason) (c : Session) :
    (veil.session c).close reason = veil.session (c.close reason) := by
  unfold close
  rw [veil.note_session]
  change (veil.session (c.note (.closing reason))).withSender
    (veil.sender (c.note (.closing reason)).sender).dispose = _
  rw [Sender.dispose_veiled]
  rfl

/-- What is left of an attempt, with a veil over what was written. -/
def Outcome.veiled : Outcome → Outcome
  | established tunnel => .established (veil.tunnel tunnel)
  | failed cause socket => .failed cause socket.veiled

theorem Outcome.cause?_veiled (outcome : Outcome) : outcome.veiled.cause? = outcome.cause? := by
  cases outcome <;> rfl

theorem Outcome.notices_veiled (outcome : Outcome) :
    outcome.veiled.journal.notices = outcome.journal.notices := by
  cases outcome <;> exact Journal.notices_veiled _

theorem Route.conclude_veiled (k : Route) (remote : Destination)
    (after : Except Failure Unit × Session) :
    k.conclude remote (after.1, veil.session after.2) = (k.conclude remote after).veiled := by
  rcases after with ⟨cause | ⟨⟩, c⟩
  · unfold conclude
    dsimp only
    rw [veil.note_session, Session.close_veiled]
    rfl
  · unfold conclude Session.detach
    dsimp only
    rw [veil.note_session, veil.note_session]
    rfl

/-! ## Credentials of one shape -/

/-- They have one user name, and passwords of one length. -/
structure Credentials.Alike (who other : Credentials) : Prop where
  username : who.username = other.username
  password : who.password.length = other.password.length

theorem Credentials.Alike.refl (who : Credentials) : who.Alike who := ⟨rfl, rfl⟩

/-- Whether a handshake uses credentials at all. -/
def ProxyKind.accepts (kind : ProxyKind) (who : Credentials) : Bool :=
  match kind with
  | .socks5 => who.isVisible
  | .http => who.isFilled

/-- The bytes that credentials show up in: a frame, unless it cannot be encoded, or the
text that proves who asks. -/
def ProxyKind.carrier (kind : ProxyKind) (who : Credentials) : Bytes :=
  match kind with
  | .socks5 => (Socks.credentialsFrame who).toOption.getD []
  | .http => Charset.ascii.encode (Http.basicToken who)

namespace Socks

variable {who other : Credentials}

theorem effective_of_isVisible (usable : who.isVisible = true) :
    effective (some who) = some who := by
  rw [effective, Option.filter_some, if_pos usable]

/-- Neither is encoded, for one reason, or both are, in frames of one length. -/
theorem credentialsFrame_cases (alike : who.Alike other) :
    (∃ e, credentialsFrame who = .error e ∧ credentialsFrame other = .error e) ∨
    ∃ bytes bytes', credentialsFrame who = .ok bytes ∧ credentialsFrame other = .ok bytes' ∧
      bytes.length = bytes'.length := by
  rw [credentialsFrame_eq, credentialsFrame_eq]
  unfold credentialsBytes
  rw [← alike.username, ← alike.password]
  by_cases hu : 255 < who.username.length
  · rw [if_pos hu, if_pos hu]
    exact .inl ⟨_, rfl, rfl⟩
  by_cases hp : 255 < who.password.length
  · rw [if_neg hu, if_pos hp, if_neg hu, if_pos hp]
    exact .inl ⟨_, rfl, rfl⟩
  · rw [if_neg hu, if_neg hp, if_neg hu, if_neg hp]
    refine .inr ⟨_, _, rfl, rfl, ?_⟩
    simp [counted, String.length_toList, alike.password]

/-- **Under the veil the handshakes are one.** -/
theorem dialogue_veiled (alike : who.Alike other) (remote : Destination) :
    veil.dialogue (dialogue (some who) remote) = veil.dialogue (dialogue (some other) remote) := by
  have hframe : veil.frame (credentialsFrame who) = veil.frame (credentialsFrame other) := by
    obtain ⟨e, h, h'⟩ | ⟨bytes, bytes', h, h', hlength⟩ := credentialsFrame_cases alike
    all_goals rw [h, h']
    exact veil_frame_congr hlength
  have hcredentials : veil.dialogue (credentialsDialogue who remote) =
      veil.dialogue (credentialsDialogue other remote) := by
    simp only [credentialsDialogue, Disguise.dialogue, hframe, alike.username]
  simp only [dialogue, Disguise.dialogue]
  congr 2
  funext answer
  rcases Method.ofByte answer.status
  case usernamePassword => exact hcredentials
  all_goals rfl

end Socks

namespace Http

variable {who other : Credentials}

theorem effective_of_isFilled (usable : who.isFilled = true) :
    effective (some who) = some who := by
  rw [effective, Option.filter_some, if_pos usable]

theorem length_basicToken (alike : who.Alike other) :
    (Charset.ascii.encode (basicToken who)).length =
      (Charset.ascii.encode (basicToken other)).length := by
  simp [basicToken, String.length_append, alike.username, alike.password]

/-- A request is the same on both sides of the text that proves who asks. -/
theorem exists_request_eq (remote : Destination) : ∃ before after, ∀ who,
    request remote (some who) = before ++ Charset.ascii.encode (basicToken who) ++ after := by
  refine ⟨preamble remote ++ authorizationStart, lineEnd ++ lineEnd, fun who => ?_⟩
  simp [request_some, authorizationLine_eq]

/-- **Under the veil the handshakes are one.** -/
theorem dialogue_veiled (alike : who.Alike other) (remote : Destination) :
    veil.dialogue (dialogue (some who) remote) = veil.dialogue (dialogue (some other) remote) := by
  have hframe : veil.frame (.ok (request remote (some who))) =
      veil.frame (.ok (request remote (some other))) := by
    obtain ⟨before, after, hrequest⟩ := exists_request_eq remote
    refine veil_frame_congr ?_
    rw [hrequest who, hrequest other]
    simp only [List.length_append, length_basicToken alike]
  simp only [dialogue, Disguise.dialogue, hframe]

end Http

theorem ProxyKind.length_carrier (kind : ProxyKind) {who other : Credentials}
    (alike : who.Alike other) : (kind.carrier who).length = (kind.carrier other).length := by
  cases kind with
  | socks5 =>
    obtain ⟨e, h, h'⟩ | ⟨bytes, bytes', h, h', hlength⟩ := Socks.credentialsFrame_cases alike
    all_goals rw [carrier, carrier, h, h']
    exact hlength
  | http =>
    rw [carrier, carrier]
    exact Http.length_basicToken alike

/-! ## What goes out -/

/-- The bytes of requests, up to the first that cannot be encoded. -/
def encodable : List (Except WireError Bytes) → Bytes
  | .ok bytes :: requests => bytes ++ encodable requests
  | _ => []

theorem flatten_prefix_encodable {frames : List Bytes} {requests : List (Except WireError Bytes)}
    (h : frames.map .ok <+: requests) : frames.flatten <+: encodable requests := by
  induction frames generalizing requests with
  | nil => exact List.nil_prefix
  | cons frame frames ih =>
    obtain ⟨others, rfl⟩ := h
    have hrest : frames.map .ok <+: frames.map .ok ++ others := List.prefix_append _ _
    exact (List.prefix_append_right_inj frame).2 (ih hrest)

/-- What a negotiation writes is the beginning of its requests. -/
theorem Handshake.written_negotiate (h : Handshake) (remote : Destination) (c : Session) :
    c.Writes (h.negotiate remote c).2 (encodable (h.requests remote (c.stream.getD 1 0))) := by
  have key : ∀ {e : Ending} {requests}, c.Writes (h.negotiate remote c).2 e.frames.flatten →
      e.Sent requests → c.Writes (h.negotiate remote c).2 (encodable requests) := by
    rintro e requests ⟨events, hg, hwritten⟩ hsent
    exact ⟨events, hg, hwritten.trans (flatten_prefix_encodable hsent.1)⟩
  obtain ⟨kind, credentials⟩ := h
  cases kind with
  | socks5 =>
    have hwritten := (Socks.dialogue (Socks.effective credentials) remote).written_run
      (Socks.fits_framing.resumed c.buffer) Socks.fits_framing.allFit
    rw [Socks.settle_dialogue] at hwritten
    exact key hwritten (Socks.sent_outcome credentials remote c.stream)
  | http =>
    have hwritten := (Http.dialogue (Http.effective credentials) remote).written_run
      (Http.fits_framing.resumed c.buffer) Http.fits_framing.allFit
    exact key hwritten (Http.sent_dialogue (Http.effective credentials) remote c.stream)

theorem Socks.encodable_requests {who : Credentials} (usable : who.isVisible = true)
    (remote : Destination) (method : UInt8) :
    encodable (requests (some who) remote method) = [5, 2, 0, 2] ++ encodable
      ((if method = 2 then [credentialsFrame who] else []) ++ [connectBytes remote]) := by
  rw [requests, ← effective_eq_inUse, effective_of_isVisible usable, credentialsFrame_eq]
  rfl

/-- Requests with credentials of one shape are the same on both sides of what carries
them. -/
theorem ProxyKind.exists_requests (kind : ProxyKind) (who : Credentials) (remote : Destination)
    (method : UInt8) : ∃ before after, ∀ other : Credentials, who.Alike other →
      kind.accepts other = true →
        encodable ((Handshake.mk kind (some other)).requests remote method) <+:
          before ++ kind.carrier other ++ after := by
  cases kind with
  | socks5 =>
    simp only [Handshake.requests, accepts, carrier]
    by_cases hmethod : method = 2
    · -- a frame that cannot be encoded is the end of what goes out
      rcases hwho : Socks.credentialsFrame who with e | bytes
      · refine ⟨[5, 2, 0, 2], [], ?_⟩
        intro other alike usable
        obtain ⟨_, _, hother⟩ | ⟨_, _, h, _⟩ := Socks.credentialsFrame_cases alike
        · rw [Socks.encodable_requests usable, if_pos hmethod, hother]
          exact List.prefix_refl _
        · rw [hwho] at h
          cases h
      · refine ⟨[5, 2, 0, 2], encodable [Socks.connectBytes remote], ?_⟩
        intro other alike usable
        obtain ⟨_, h, _⟩ | ⟨_, bytes', _, hother, _⟩ := Socks.credentialsFrame_cases alike
        · rw [hwho] at h
          cases h
        · rw [Socks.encodable_requests usable, if_pos hmethod, hother, List.append_assoc]
          exact List.prefix_refl _
    · refine ⟨[5, 2, 0, 2] ++ encodable [Socks.connectBytes remote], [], ?_⟩
      intro other _ usable
      rw [Socks.encodable_requests usable, if_neg hmethod, List.append_assoc]
      exact List.prefix_append _ _
  | http =>
    obtain ⟨before, after, hrequest⟩ := Http.exists_request_eq remote
    refine ⟨before, after, ?_⟩
    intro other _ usable
    change Http.request remote (Http.effective (some other)) ++ [] <+: _
    rw [Http.effective_of_isFilled usable, List.append_nil, hrequest other]
    exact List.prefix_refl _

/-! ## Where nobody asks for credentials -/

namespace Socks

/-- An offer of methods goes out, and the answer to it selects the method with this
code. -/
def Selects (offer : List Method) (c : Session) (code : UInt8) : Prop :=
  ∃ sent answer rule chosen, c.send (.ok (greeting offer)) = (.ok (), sent) ∧
    sent.receive (some Answer.framing) = (.ok answer, rule, chosen) ∧
    sent.Uses chosen [5, code]

/-- A client whose credentials are not selected keeps them to itself. -/
theorem run_eq_of_not_selects (who other : Credentials) (remote : Destination) {c : Session}
    (unselected : ¬ Selects (offered (some who)) c 2) :
    (dialogue (some who) remote).run (some Answer.framing) c =
      (dialogue (some other) remote).run (some Answer.framing) c := by
  have hoffer : offered (some other) = offered (some who) := rfl
  unfold dialogue Dialogue.run
  rw [hoffer]
  rcases hsend : c.send (.ok (greeting (offered (some who)))) with ⟨e | ⟨⟩, sent⟩
  · rfl
  dsimp only
  unfold Dialogue.run
  rcases hreceive : sent.receive (some Answer.framing) with ⟨e | answer, rule, chosen⟩
  · rfl
  obtain ⟨code, rfl, huses, _⟩ := selected hreceive
  have hcode : code ≠ 2 := by
    rintro rfl
    exact unselected ⟨sent, _, rule, chosen, hsend, hreceive, huses⟩
  have hafter : afterMethod (some who) remote (Method.ofByte code) =
      afterMethod (some other) remote (Method.ofByte code) := by
    by_cases h0 : code = 0
    · rw [h0]
      rfl
    · rw [afterMethod_of_ne h0 hcode, afterMethod_of_ne h0 hcode]
  exact congrArg (fun x : Dialogue Answer => x.run rule chosen) hafter

end Socks

/-! ## Two attempts -/

namespace Route

/-- The route with other credentials. -/
def presenting (k : Route) (who : Credentials) : Route :=
  { k with handshake := ⟨k.handshake.kind, some who⟩ }

/-- The transport opens, the offer of methods goes out, and the answer to it selects
the method with this code. -/
def Selects (k : Route) (remote : Except AddressError Destination) (script : Script Unit)
    (transport : Tunnel) (code : UInt8) : Prop :=
  ∃ destination left journal, remote = .ok destination ∧
    dial script transport.socket.journal = (some (.ok ()), left, journal) ∧
    Socks.Selects (Socks.offered (Socks.effective k.handshake.credentials))
      (k.opened transport journal) code

variable (k : Route) {who other : Credentials} (remote : Except AddressError Destination)
  (script : Script Unit) (transport : Tunnel)

/-- Credentials count once an attempt negotiates. -/
theorem connect_presenting :
    (∃ outcome, ∀ who, (k.presenting who).connect remote script transport = outcome) ∨
    ∃ destination left journal, remote = .ok destination ∧
      dial script transport.socket.journal = (some (.ok ()), left, journal) ∧
      ∀ who, (k.presenting who).connect remote script transport = k.conclude destination
        ((k.presenting who).negotiate destination (k.opened transport journal)) := by
  unfold connect
  by_cases hfired : transport.socket.journal.hasFired Session.attemptToken
  · simp only [if_pos hfired]
    exact .inl ⟨_, fun _ => rfl⟩
  simp only [if_neg hfired]
  rcases remote with e | destination
  · exact .inl ⟨_, fun _ => rfl⟩
  unfold connectTo
  rcases hdial : dial script transport.socket.journal with ⟨_ | (e | ⟨⟩), left, journal⟩
  · exact .inl ⟨_, fun _ => rfl⟩
  · exact .inl ⟨.failed (.transport e) (({ transport.socket with journal } : Socket).record
      (.notice (.proxyUnreachable k.proxy e))), fun _ => rfl⟩
  · exact .inr ⟨destination, left, journal, rfl, rfl, fun _ => rfl⟩

/-- Under the veil two negotiations are one. -/
theorem negotiate_veiled (usable : k.handshake.kind.accepts who = true)
    (usable' : k.handshake.kind.accepts other = true) (alike : who.Alike other)
    (destination : Destination) (c : Session) :
    ((k.presenting who).negotiate destination c).1 =
        ((k.presenting other).negotiate destination c).1 ∧
      veil.session ((k.presenting who).negotiate destination c).2 =
        veil.session ((k.presenting other).negotiate destination c).2 := by
  unfold negotiate
  split
  · exact ⟨rfl, rfl⟩
  obtain ⟨proxy, ⟨kind, credentials⟩, limits⟩ := k
  cases kind with
  | socks5 =>
    change ((Socks.dialogue (Socks.effective (some who)) destination).run _ c).1 =
        ((Socks.dialogue (Socks.effective (some other)) destination).run _ c).1 ∧
      veil.session ((Socks.dialogue (Socks.effective (some who)) destination).run _ c).2 =
        veil.session ((Socks.dialogue (Socks.effective (some other)) destination).run _ c).2
    rw [Socks.effective_of_isVisible usable, Socks.effective_of_isVisible usable']
    exact veil.run_eq_of_dialogue_eq (Socks.dialogue_veiled alike destination) _ c
  | http =>
    change ((Http.dialogue (Http.effective (some who)) destination).run _ c).1 =
        ((Http.dialogue (Http.effective (some other)) destination).run _ c).1 ∧
      veil.session ((Http.dialogue (Http.effective (some who)) destination).run _ c).2 =
        veil.session ((Http.dialogue (Http.effective (some other)) destination).run _ c).2
    rw [Http.effective_of_isFilled usable, Http.effective_of_isFilled usable']
    exact veil.run_eq_of_dialogue_eq (Http.dialogue_veiled alike destination) _ c

/-- Under the veil two attempts are one. -/
theorem connect_veiled (usable : k.handshake.kind.accepts who = true)
    (usable' : k.handshake.kind.accepts other = true) (alike : who.Alike other) :
    ((k.presenting who).connect remote script transport).veiled =
      ((k.presenting other).connect remote script transport).veiled := by
  obtain ⟨outcome, h⟩ | ⟨destination, left, journal, _, _, h⟩ :=
    k.connect_presenting remote script transport
  · rw [h, h]
  · obtain ⟨hresult, hsession⟩ :=
      k.negotiate_veiled usable usable' alike destination (k.opened transport journal)
    rw [h, h, ← conclude_veiled, ← conclude_veiled, hresult, hsession]

/-- A shutdown writes nothing. -/
theorem written_of_isShutDown {events : List Event} (h : events.all isShutDown = true) :
    events.flatMap Journal.writtenBy = [] := by
  rw [List.flatMap_eq_nil_iff]
  intro e he
  have hkind := List.all_eq_true.1 h e he
  cases e <;> first | rfl | cases hkind

/-- What an attempt writes is the beginning of its requests. -/
theorem written_connect :
    (k.connect remote script transport).journal.written = transport.socket.journal.written ∨
    ∃ destination sent, remote = .ok destination ∧
      (k.connect remote script transport).journal.written =
        transport.socket.journal.written ++ sent ∧
      sent <+: encodable (k.handshake.requests destination (transport.unread.getD 1 0)) := by
  obtain ⟨cause, socket, added, houtcome, hadded, hnone, _⟩ |
    ⟨destination, left, journal, rfl, dialed, houtcome⟩ :=
      k.fails_or_negotiates remote script transport
  · refine .inl ?_
    rw [houtcome]
    change socket.journal.written = _
    rw [hadded, Journal.written_append, Journal.written, Journal.written, hnone]
    exact List.append_nil _
  refine .inr ⟨destination, ?_⟩
  have hidle := idle_dial script transport.socket.journal
  rw [dialed] at hidle
  obtain ⟨waits, hwaits, hnone, _⟩ := hidle.added
  have hbefore : (k.opened transport journal).journal.written =
      transport.socket.journal.written := by
    change Journal.written (journal ++ [.opened]) = _
    rw [show journal = _ from hwaits, Journal.written_append, Journal.written_append,
      Journal.written, Journal.written, Journal.written, hnone]
    simp [Journal.events, Journal.event?]
  obtain ⟨events, hg, hsent⟩ : (k.opened transport journal).Writes
      (k.negotiate destination (k.opened transport journal)).2
      (encodable (k.handshake.requests destination (transport.unread.getD 1 0))) := by
    unfold negotiate
    split
    · exact ⟨[], .refl _, List.nil_prefix⟩
    · exact k.handshake.written_negotiate destination (k.opened transport journal)
  obtain ⟨closing, hg', hclosing⟩ := k.gainsOnly_conclude destination
    (k.negotiate destination (k.opened transport journal)).1
    (k.negotiate destination (k.opened transport journal)).2
  refine ⟨events.flatMap Journal.writtenBy, rfl, ?_, hsent⟩
  rw [houtcome]
  refine hg'.written_eq.trans ?_
  rw [hg.written_eq, hbefore, written_of_isShutDown hclosing, List.append_nil]

/-- Attempts with credentials of one shape write the same on both sides of what
carries them. -/
theorem written_within (who : Credentials) : ∃ before after, ∀ other : Credentials,
    who.Alike other → k.handshake.kind.accepts other = true →
      ((k.presenting other).connect remote script transport).journal.written <+:
        before ++ k.handshake.kind.carrier other ++ after := by
  rcases remote with e | destination
  · refine ⟨transport.socket.journal.written, [], ?_⟩
    intro other _ _
    obtain h | ⟨_, _, hremote, _⟩ :=
      (k.presenting other).written_connect (.error e) script transport
    · rw [h, List.append_assoc]
      exact List.prefix_append _ _
    · cases hremote
  · obtain ⟨before, after, hrequests⟩ := k.handshake.kind.exists_requests who destination
      (transport.unread.getD 1 0)
    refine ⟨transport.socket.journal.written ++ before, after, ?_⟩
    intro other alike usable
    rw [List.append_assoc, List.append_assoc, ← List.append_assoc before]
    obtain h | ⟨_, sent, hremote, h, hsent⟩ :=
      (k.presenting other).written_connect (.ok destination) script transport
    · rw [h]
      exact List.prefix_append _ _
    · cases hremote
      rw [h]
      exact (List.prefix_append_right_inj _).2 (hsent.trans (hrequests other alike usable))

/-- **Credentials do not leak.** Take any route, destination and environment, and two
credentials that its handshake uses.

* If they have one user name and passwords of one length, the two attempts end alike
  and callers are told the same. All that the attempts leave behind is equal under the
  veil, with the same reads, flushes, shutdowns, failures and sizes of writes in the
  same order. And they wrote the same on both sides of what carries the credentials.
* If the proxy speaks SOCKS5 and does not select credentials, the two attempts are
  equal, whatever the credentials are. -/
theorem connect_conceals (who other : Credentials)
    (usable : k.handshake.kind.accepts who = true)
    (usable' : k.handshake.kind.accepts other = true) :
    let attempt (c : Credentials) := (k.presenting c).connect remote script transport
    let carrier := k.handshake.kind.carrier
    (who.username = other.username → who.password.length = other.password.length →
      (attempt who).cause? = (attempt other).cause? ∧
      (attempt who).journal.notices = (attempt other).journal.notices ∧
      (attempt who).veiled = (attempt other).veiled ∧
      (carrier who).length = (carrier other).length ∧
      ∃ before after, (attempt who).journal.written <+: before ++ carrier who ++ after ∧
        (attempt other).journal.written <+: before ++ carrier other ++ after) ∧
    (k.handshake.kind = .socks5 →
      ¬ (k.presenting who).Selects remote script transport 2 → attempt who = attempt other) := by
  intro attempt carrier
  refine ⟨?_, ?_⟩
  · intro husername hpassword
    have alike : who.Alike other := ⟨husername, hpassword⟩
    have hveiled : (attempt who).veiled = (attempt other).veiled :=
      k.connect_veiled remote script transport usable usable' alike
    obtain ⟨before, after, hwithin⟩ := k.written_within remote script transport who
    refine ⟨?_, ?_, hveiled, k.handshake.kind.length_carrier alike,
      before, after, hwithin who (.refl who) usable, hwithin other alike usable'⟩
    · rw [← Outcome.cause?_veiled, hveiled, Outcome.cause?_veiled]
    · rw [← Outcome.notices_veiled, hveiled, Outcome.notices_veiled]
  · intro hkind unselected
    obtain ⟨outcome, h⟩ | ⟨destination, left, journal, hremote, dialed, h⟩ :=
      k.connect_presenting remote script transport
    · exact (h who).trans (h other).symm
    rw [hkind] at usable usable'
    refine (h who).trans ((congrArg (k.conclude destination) ?_).trans (h other).symm)
    have hunselected :
        ¬ Socks.Selects (Socks.offered (some who)) (k.opened transport journal) 2 := by
      intro hselects
      refine unselected ⟨destination, left, journal, hremote, dialed, ?_⟩
      change Socks.Selects (Socks.offered (Socks.effective (some who))) _ 2
      rw [Socks.effective_of_isVisible usable]
      exact hselects
    have hnegotiate : ∀ c : Credentials, c.isVisible = true →
        (k.presenting c).handshake.negotiate destination (k.opened transport journal) =
          (Socks.dialogue (some c) destination).run (some Socks.Answer.framing)
            (k.opened transport journal) := by
      intro c hc
      change (Handshake.mk k.handshake.kind (some c)).negotiate _ _ = _
      rw [hkind]
      change (Socks.dialogue (Socks.effective (some c)) destination).run _ _ = _
      rw [Socks.effective_of_isVisible hc]
    unfold negotiate
    rw [hnegotiate who usable, hnegotiate other usable',
      Socks.run_eq_of_not_selects who other destination hunselected]

/-- A proxy that opens a tunnel to any client and does not ask who it is. -/
def trustingProxy : Tunnel :=
  .ofSocket ⟨[.ready [5, 0], .ready [5, 0, 0, 1, 0, 0, 0, 0, 0, 0]], [], [], [], []⟩

/-- Two passwords of one character go to a proxy that asks for them. The two attempts
wrote different bytes and are equal under the veil. A proxy that does not ask sees
nothing of either. -/
theorem connect_conceals_passwords :
    let attempt (c : Credentials) :=
      (plainRoute.presenting c).connect (.ok (.ip (.ip4 ⟨10, 0, 0, 1⟩ 80))) []
    (attempt ⟨"u", "p"⟩ (openProxy [.ready (some 6), .pending])).veiled =
        (attempt ⟨"u", "q"⟩ (openProxy [.ready (some 6), .pending])).veiled ∧
      (attempt ⟨"u", "p"⟩ (openProxy [.ready (some 6), .pending])).journal.written ≠
        (attempt ⟨"u", "q"⟩ (openProxy [.ready (some 6), .pending])).journal.written ∧
      attempt ⟨"u", "p"⟩ trustingProxy = attempt ⟨"somebody", "else"⟩ trustingProxy := by
  intro attempt
  refine ⟨?_, by decide +kernel, ?_⟩
  · have key := connect_conceals plainRoute (.ok (.ip (.ip4 ⟨10, 0, 0, 1⟩ 80))) []
      (openProxy [.ready (some 6), .pending]) ⟨"u", "p"⟩ ⟨"u", "q"⟩ (by decide +kernel)
      (by decide +kernel)
    obtain ⟨_, _, hveiled, _⟩ := key.1 rfl (by decide +kernel)
    exact hveiled
  · refine (connect_conceals plainRoute _ [] _ ⟨"u", "p"⟩ ⟨"somebody", "else"⟩ (by decide +kernel)
      (by decide +kernel)).2 rfl ?_
    rintro ⟨_, left, journal, _, dialed, sent, answer, rule, chosen, hsend, hreceive, huses⟩
    obtain rfl : journal = [] := by
      have hdial : (dial [] trustingProxy.socket.journal).2.2 = [] := by decide +kernel
      rw [dialed] at hdial
      exact hdial
    obtain ⟨code, rfl, huses', _⟩ := Socks.selected hreceive
    obtain rfl : code = 2 := by
      cases huses.unique huses'
      rfl
    have hsent : sent = (((plainRoute.presenting ⟨"u", "p"⟩).opened trustingProxy []).send
        (.ok (Socks.greeting (Socks.offered (Socks.effective (some ⟨"u", "p"⟩)))))).2 :=
      (congrArg Prod.snd hsend).symm
    have hanswer : (sent.receive (some Socks.Answer.framing)).1 = .ok (.method 0) := by
      rw [hsent]
      decide +kernel
    rw [hreceive] at hanswer
    cases hanswer

end Route

end ProxyTunnel
