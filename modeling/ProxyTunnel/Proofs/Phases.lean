/-
No phase of a SOCKS5 handshake begins before the answer to the last one was
accepted.

A client has three things to say: an offer of methods, its credentials, and a
request. Each is due after certain bytes of the proxy and no others
(`Socks.Phase.Due`), and a session that says one of them has used up just these
bytes (`Session.Uses`); so the bytes were there before. Hence every byte that a
negotiation writes belongs to a phase that was due when it began. This is so in
every environment: nothing is assumed of reads, writes, waits or the token
(`Handshake.negotiate_phases`).
-/
import ProxyTunnel.Proofs.Moments
import ProxyTunnel.Proofs.Requests

set_option autoImplicit false

namespace ProxyTunnel

open Event

variable {α : Type}

/-! ## What a run has written -/

namespace Session

/-- From one session to a later one the socket took no more than the beginning
of these bytes. -/
def Writes (c d : Session) (expected : Bytes) : Prop :=
  ∃ events, c.journal.Gains d.journal events ∧ events.flatMap Journal.writtenBy <+: expected

variable {c d e : Session} {expected : Bytes}

/-- What is only read writes nothing. -/
theorem written_of_isRead {events : List Event} (h : events.all isRead = true) :
    events.flatMap Journal.writtenBy = [] := by
  rw [flatMap_writtenBy, parts_of_isRead h]
  rfl

theorem writes_of_reads
    (h : ∃ events, c.journal.Gains d.journal events ∧ events.all isRead = true)
    (expected : Bytes) : c.Writes d expected := by
  obtain ⟨events, hg, hall⟩ := h
  exact ⟨events, hg, by rw [written_of_isRead hall]; exact List.nil_prefix⟩

/-- One stretch of a run after another. -/
theorem Writes.after {events : List Event} {sent : Bytes} (hg : c.journal.Gains d.journal events)
    (hsent : events.flatMap Journal.writtenBy = sent) (h : d.Writes e expected) :
    c.Writes e (sent ++ expected) := by
  obtain ⟨more, hg', hle⟩ := h
  refine ⟨events ++ more, hg.trans hg', ?_⟩
  rw [List.flatMap_append, hsent]
  exact (List.prefix_append_right_inj sent).2 hle

/-- Part of a frame, and nothing after it. -/
theorem writes_of_part {events : List Event} {sent frame : Bytes}
    (hg : c.journal.Gains d.journal events) (out : parts events = ([], sent))
    (part : sent <+: frame) (more : Bytes) : c.Writes d (frame ++ more) := by
  refine ⟨events, hg, ?_⟩
  rw [flatMap_writtenBy, out]
  exact part.trans (List.prefix_append frame more)

theorem Writes.after_reads (hh : c.Hears d) (h : d.Writes e expected) : c.Writes e expected := by
  obtain ⟨events, hg, hall⟩ := hh.events
  exact h.after hg (written_of_isRead hall)

end Session

/-- **Whatever a run writes is the beginning of the frames** that its dialogue
sends on the same stream. -/
theorem Dialogue.written_run {n : Nat} (d : Dialogue α) {rule start : Option (Framing α)}
    {c : Session} (hr : Framing.Resumed rule c.buffer start) (hf : Framing.AllFit n start) :
    c.Writes (d.run rule c).2 (d.settle start c.stream).frames.flatten := by
  -- what the run has read and what is still to come make up one stream throughout
  induction d generalizing rule start c with
  | finish result => exact ⟨[], .refl _, List.nil_prefix⟩
  | note n d ih =>
    have hr' : Framing.Resumed rule (c.note n).buffer start := hr
    exact (ih hr' hf).after ((Journal.Gains.refl c.journal).notice n) rfl
  | send frame d ih =>
    obtain ⟨xs, hg, hsends⟩ := Session.sends frame c
    have hr' : Framing.Resumed rule (c.send frame).2.buffer start := hr
    have hrest := ih hr' hf
    have hnone := run_of_disposed d hr' hf
    rw [Session.stream_send] at hrest
    unfold run
    rcases hsend : c.send frame with ⟨result, c₁⟩
    rw [hsend] at hg hsends hrest hnone
    have hdisposed : c₁.sender.disposed = c₁.disposed := rfl
    dsimp only at hsends hrest hnone
    generalize c₁.sender = s at hsends hdisposed
    cases hsends with
    | drops gone =>
      obtain ⟨ys, hg', hall⟩ := hnone (hdisposed.symm.trans gone)
      exact Session.writes_of_reads ⟨ys, hg.trans hg', hall⟩ _
    | refuses => exact Session.writes_of_reads ⟨[], hg, rfl⟩ _
    | withdraws => exact Session.writes_of_reads ⟨[], hg, rfl⟩ _
    | sends eq usable rest =>
      rw [eq, settle]
      cases rest with
      | delivers out heard kept =>
        refine hrest.after hg ?_
        rw [flatMap_writtenBy, out]
        simp
      | closes part out unheard gone =>
        obtain ⟨ys, hg', hall⟩ := hnone (hdisposed.symm.trans gone)
        refine Session.writes_of_part (hg.trans hg') ?_ part _
        rw [parts_append, parts_of_isRead hall, joinParts_nothing, out]
      | fails part out heard => exact Session.writes_of_part hg out part _
  | receive next ih =>
    have hh := (Session.receive_spec hr hf).1
    unfold run
    rcases hreceive : c.receive rule with ⟨e | content, rule₁, c₁⟩
    · rw [hreceive] at hh
      exact Session.writes_of_reads hh.events _
    · obtain ⟨hh, start', hp, hr', hf'⟩ := Session.receive_of_ok hr hf hreceive
      rw [settle, hp]
      exact (ih content hr' hf').after_reads hh
  | skipTo last d ih =>
    have hh := (Session.skipTo_spec last hr hf).1
    unfold run
    rcases hskip : c.skipTo last rule with ⟨e | ⟨⟩, rule₁, c₁⟩
    · rw [hskip] at hh
      exact Session.writes_of_reads hh.events _
    · obtain ⟨hh, start', hp, hr', hf'⟩ := Session.skipTo_of_ok hr hf hskip
      rw [settle, hp]
      exact (ih hr' hf').after_reads hh

/-! ## What a session has used up -/

namespace Session

/-- From one session to a later one these bytes were used up. The bytes that were
delivered by then, buffered before or arrived since, are these and the ones that
are buffered now. -/
def Uses (c d : Session) (used : Bytes) : Prop :=
  ∃ arrived, c.tunnel.unread = arrived ++ d.tunnel.unread ∧ c.buffer ++ arrived = used ++ d.buffer

variable {c d e : Session} {used more : Bytes}

theorem Uses.refl (c : Session) : c.Uses c [] := ⟨[], rfl, List.append_nil _⟩

theorem Uses.trans (h : c.Uses d used) (h' : d.Uses e more) : c.Uses e (used ++ more) := by
  obtain ⟨xs, hx, hused⟩ := h
  obtain ⟨ys, hy, hmore⟩ := h'
  refine ⟨xs ++ ys, ?_, ?_⟩
  · rw [hx, hy, List.append_assoc]
  · rw [← List.append_assoc, hused, List.append_assoc, hmore, List.append_assoc]

/-- What was used up between two moments is determined by them. -/
theorem Uses.unique (h : c.Uses d used) (h' : c.Uses d more) : used = more := by
  obtain ⟨xs, hx, hused⟩ := h
  obtain ⟨ys, hy, hmore⟩ := h'
  obtain rfl : xs = ys := List.append_cancel_right (hx.symm.trans hy)
  exact List.append_cancel_right (hused.symm.trans hmore)

/-- What the stream has lost was used up. -/
theorem uses_of_stream (hrest : d.tunnel.unread <:+ c.tunnel.unread)
    (hstream : c.stream = used ++ d.stream) : c.Uses d used := by
  obtain ⟨arrived, harrived⟩ := hrest
  refine ⟨arrived, harrived.symm, ?_⟩
  unfold stream at hstream
  rw [← harrived, ← List.append_assoc, ← List.append_assoc] at hstream
  exact List.append_cancel_right hstream

/-- Sending uses nothing up. -/
theorem uses_send (frame : Except WireError Bytes) (c : Session) : c.Uses (c.send frame).2 [] := by
  have hreads : (c.send frame).2.tunnel.socket.reads = c.tunnel.socket.reads :=
    Sender.reads_send c.supervised c.token frame c.sender
  refine uses_of_stream ?_ (stream_send frame c).symm
  change c.tunnel.replay ++ (c.send frame).2.tunnel.socket.unread <:+ _
  rw [Socket.unread, hreads]
  exact List.suffix_refl _

theorem unread_next_suffix (rule : Option (Framing α)) (c : Session) :
    (c.next rule).2.2.tunnel.unread <:+ c.tunnel.unread := by
  have hfetch : ∀ (c : Session) {result t}, c.fetch = (result, t) →
      t.unread <:+ c.tunnel.unread := by
    intro c result t h
    obtain ⟨bytes, hh, _⟩ := heard_fetch c
    rw [h] at hh
    exact ⟨bytes, hh.unread.symm⟩
  fun_induction next rule c with
  | case1 | case2 | case3 | case4 | case5 => exact List.suffix_refl _
  | case6 c _ _ _ _ _ _ _ _ h => exact hfetch c h
  | case7 c _ _ _ _ _ _ _ h => exact hfetch c h
  | case8 c _ _ _ _ _ _ _ _ h _ ih => exact ih.trans (hfetch c h)

theorem unread_receive_suffix {rule rule' : Option (Framing α)} {result : Except Failure α}
    (h : c.receive rule = (result, rule', d)) : d.tunnel.unread <:+ c.tunnel.unread := by
  have hnext := unread_next_suffix rule c
  rw [receive_eq] at h
  rwa [(Prod.mk.inj (Prod.mk.inj h).2).2] at hnext

end Session

namespace Socks

/-! ## The answers that are accepted -/

/-- The answer to an offer that a session receives is the method selected, behind
the version. -/
theorem selected {c d : Session} {rule' : Option (Framing Answer)} {answer : Answer}
    (h : c.receive (some Answer.framing) = (.ok answer, rule', d)) :
    ∃ code, answer = .method code ∧ c.Uses d [5, code] ∧ Framing.Resumed rule' d.buffer
      (some (if code = 2 then Answer.verdictFraming else Answer.relayFraming)) := by
  obtain ⟨_, next, hpick, hnext, _⟩ :=
    Session.receive_of_ok (fits_framing.resumed c.buffer) fits_framing.allFit h
  rcases hstream : c.stream with _ | ⟨v, _ | ⟨code, rest⟩⟩
  all_goals rw [hstream] at hpick
  · rw [pick_framing_short (by simp)] at hpick
    cases hpick
  · rw [pick_framing_short (by simp)] at hpick
    cases hpick
  rw [pick_framing] at hpick
  by_cases hv : v ≠ 5
  · rw [if_pos hv] at hpick
    cases hpick
  · rw [if_neg hv] at hpick
    obtain rfl : v = 5 := Classical.not_not.1 hv
    cases hpick
    exact ⟨code, rfl, Session.uses_of_stream (Session.unread_receive_suffix h) hstream, hnext⟩

/-- The verdict on credentials that a session receives has two bytes. -/
theorem judged {c d : Session} {rule rule' : Option (Framing Answer)} {answer : Answer}
    (hr : Framing.Resumed rule c.buffer (some Answer.verdictFraming))
    (h : c.receive rule = (.ok answer, rule', d)) :
    ∃ v status, answer = .verdict v status ∧ c.Uses d [v, status] := by
  obtain ⟨_, next, hpick, _⟩ := Session.receive_of_ok hr fits_verdictFraming.allFit h
  rcases hstream : c.stream with _ | ⟨v, _ | ⟨status, rest⟩⟩
  all_goals rw [hstream] at hpick
  · rw [pick_verdictFraming_short (by simp)] at hpick
    cases hpick
  · rw [pick_verdictFraming_short (by simp)] at hpick
    cases hpick
  rw [pick_verdictFraming] at hpick
  cases hpick
  exact ⟨v, status, rfl, Session.uses_of_stream (Session.unread_receive_suffix h) hstream⟩

/-! ## Phases -/

/-- What a client says: which methods it knows, who it is, where it wants to go. -/
inductive Phase where
  | offering
  | authenticating
  | requesting
  deriving DecidableEq

namespace Phase

/-- The frame of a phase, for the credentials in use. -/
def frame (credentials : Option Credentials) (remote : Destination) :
    Phase → Option (Except WireError Bytes)
  | offering => some (.ok (offerBytes credentials))
  | authenticating => credentials.map credentialsBytes
  | requesting => some (connectBytes remote)

/-- A phase is due once these bytes of the proxy were used up. -/
inductive Due : Phase → Bytes → Prop
  | offering : Due .offering []
  | authenticating : Due .authenticating [5, 2]
  | unauthenticated : Due .requesting [5, 0]
  /-- The version of a verdict tells nothing. -/
  | authenticated (v : UInt8) : Due .requesting [5, 2, v, 0]

/-- What a client has against an answer with this code, if anything. -/
def objection? (credentials : Option Credentials) (code : UInt8) : Phase → Option Failure
  | offering =>
    if code = 0 ∨ code = 2 ∧ credentials.isSome then none else some (violation code)
  | authenticating => if code = 0 then none else some (.socks .credentialsRejected)
  | requesting => if code = 0 then none else some (.socks (.rejected (Reply.ofByte code)))

/-- Why what came for an answer is refused, if it is. -/
def refusal? (credentials : Option Credentials) (phase : Phase) :
    Except Failure Answer → Option Failure
  | .error cause => some cause
  | .ok answer => phase.objection? credentials answer.status

/-- How a client goes on after the answer to a phase. -/
def reaction (credentials : Option Credentials) (remote : Destination) :
    Phase → Answer → Dialogue Answer
  | offering, answer => afterMethod credentials remote (Method.ofByte answer.status)
  | authenticating, answer =>
    if answer.status = 0 then requestDialogue remote
    else .finish (.error (.socks .credentialsRejected))
  | requesting, answer =>
    match Reply.ofByte answer.status with
    | .succeeded => .note (.relaying remote answer.bound?) (.finish (.ok ()))
    | reply => .finish (.error (.socks (.rejected reply)))

variable {credentials : Option Credentials} {remote : Destination}

/-- Only one phase is due after given bytes. -/
theorem Due.unique {p q : Phase} {used : Bytes} (h : p.Due used) (h' : q.Due used) : p = q := by
  cases h <;> cases h' <;> rfl

/-- A client that objects to an answer ends the handshake. -/
theorem reaction_of_objection {phase : Phase} {answer : Answer} {cause : Failure}
    (h : phase.objection? credentials answer.status = some cause) :
    phase.reaction credentials remote answer = .finish (.error cause) := by
  rcases phase with _ | _ | _
  · simp only [objection?] at h
    split at h
    · cases h
    rename_i hneither
    cases h
    rw [not_or] at hneither
    by_cases h2 : answer.status = 2
    · rcases credentials with _ | who
      · unfold reaction
        dsimp only
        rw [h2]
        rfl
      · exact absurd ⟨h2, rfl⟩ hneither.2
    · exact afterMethod_of_ne hneither.1 h2 credentials remote
  · simp only [objection?] at h
    split at h
    · cases h
    · cases h
      exact if_neg ‹_›
  · simp only [objection?] at h
    split at h
    · cases h
    rename_i hne
    cases h
    unfold reaction
    dsimp only
    rcases hreply : Reply.ofByte answer.status
    · exact absurd (ofByte_eq_succeeded.1 hreply) hne
    all_goals rfl

/-- After the last answer nothing is sent. -/
theorem not_reaches_send (credentials : Option Credentials) {answer : Answer}
    {rule rule' : Option (Framing Answer)} {c start : Session} {frame : Except WireError Bytes}
    {d : Dialogue Answer} :
    ¬ (requesting.reaction credentials remote answer).Reaches rule c (.send frame d) rule'
      start := by
  unfold reaction
  dsimp only
  rcases Reply.ofByte answer.status
  · rintro (_ | rest)
    cases rest
  all_goals exact nofun

end Phase

/-- How a handshake may come to a phase in a session. -/
inductive Opens (credentials : Option Credentials) (remote : Destination) (c : Session) :
    Phase → Session → Prop
  | offering : Opens credentials remote c .offering c
  | authenticating {who : Credentials} {sent chosen : Session} {rule : Option (Framing Answer)}
      {answer : Answer} (usable : credentials = some who)
      (offered : c.send (.ok (greeting (offered credentials))) = (.ok (), sent))
      (selected : sent.receive (some Answer.framing) = (.ok answer, rule, chosen))
      (method : answer.status = 2) :
      Opens credentials remote c .authenticating (chosen.note (.authenticating who.username))
  | unauthenticated {sent chosen : Session} {rule : Option (Framing Answer)} {answer : Answer}
      (offered : c.send (.ok (greeting (offered credentials))) = (.ok (), sent))
      (selected : sent.receive (some Answer.framing) = (.ok answer, rule, chosen))
      (method : answer.status = 0) :
      Opens credentials remote c .requesting
        ((chosen.note .acceptedWithoutAuth).note (.requesting remote))
  | authenticated {who : Credentials} {sent chosen proved later : Session}
      {rule rule' : Option (Framing Answer)} {answer verdict : Answer}
      (usable : credentials = some who)
      (offered : c.send (.ok (greeting (offered credentials))) = (.ok (), sent))
      (selected : sent.receive (some Answer.framing) = (.ok answer, rule, chosen))
      (method : answer.status = 2)
      (named : (chosen.note (.authenticating who.username)).send (credentialsFrame who) =
        (.ok (), proved))
      (judged : proved.receive rule = (.ok verdict, rule', later)) (status : verdict.status = 0) :
      Opens credentials remote c .requesting (later.note (.requesting remote))

section

variable {credentials : Option Credentials} {remote : Destination} {c start : Session}
  {phase : Phase}

/-- A handshake comes to each phase at most once. -/
theorem Opens.unique {start' : Session} (h : Opens credentials remote c phase start)
    (h' : Opens credentials remote c phase start') : start = start' := by
  cases h with
  | offering =>
    cases h'
    rfl
  | authenticating usable offered selected method =>
    cases h' with
    | authenticating usable' offered' selected' method' =>
      cases usable.symm.trans usable'
      cases offered.symm.trans offered'
      cases selected.symm.trans selected'
      rfl
  | unauthenticated offered selected method =>
    cases h' with
    | unauthenticated offered' selected' method' =>
      cases offered.symm.trans offered'
      cases selected.symm.trans selected'
      rfl
    | authenticated usable' offered' selected' method' =>
      cases offered.symm.trans offered'
      cases selected.symm.trans selected'
      cases method.symm.trans method'
  | authenticated usable offered selected method named judged =>
    cases h' with
    | unauthenticated offered' selected' method' =>
      cases offered.symm.trans offered'
      cases selected.symm.trans selected'
      cases method.symm.trans method'
    | authenticated usable' offered' selected' method' named' judged' =>
      cases usable.symm.trans usable'
      cases offered.symm.trans offered'
      cases selected.symm.trans selected'
      cases named.symm.trans named'
      cases judged.symm.trans judged'
      rfl

/-- **A phase opens only when it is due.** -/
theorem Opens.due (h : Opens credentials remote c phase start) :
    ∃ used, phase.Due used ∧ c.Uses start used := by
  have hsend : ∀ {c d : Session} {frame}, c.send frame = (.ok (), d) →
      c.Uses d [] ∧ d.buffer = c.buffer := by
    intro c d frame h
    have huses := Session.uses_send frame c
    have hbuffer : (c.send frame).2.buffer = c.buffer := rfl
    rw [h] at huses hbuffer
    exact ⟨huses, hbuffer⟩
  cases h with
  | offering => exact ⟨[], .offering, .refl _⟩
  | authenticating usable offered selected method =>
    obtain ⟨code, rfl, huses, _⟩ := Socks.selected selected
    obtain rfl : code = 2 := method
    exact ⟨_, .authenticating, (hsend offered).1.trans huses⟩
  | unauthenticated offered selected method =>
    obtain ⟨code, rfl, huses, _⟩ := Socks.selected selected
    obtain rfl : code = 0 := method
    exact ⟨_, .unauthenticated, (hsend offered).1.trans huses⟩
  | @authenticated who _ chosen _ _ _ _ _ _ usable offered selected method named judged status =>
    obtain ⟨code, rfl, huses, hr⟩ := Socks.selected selected
    obtain rfl : code = 2 := method
    obtain ⟨hnamed, hbuffer⟩ := hsend named
    rw [if_pos rfl, show chosen.buffer = _ from hbuffer.symm] at hr
    obtain ⟨v, verdict, rfl, huses'⟩ := Socks.judged hr judged
    obtain rfl : verdict = 0 := status
    have hproved : chosen.Uses _ [] := hnamed
    exact ⟨_, .authenticated v, (((hsend offered).1.trans huses).trans hproved).trans huses'⟩

/-- From the request on nothing else is sent. -/
theorem request_of_reaches (credentials : Option Credentials) {rule rule' : Option (Framing Answer)}
    {frame : Except WireError Bytes} {d : Dialogue Answer}
    (h : (requestDialogue remote).Reaches rule c (.send frame d) rule' start) :
    start = c.note (.requesting remote) ∧ frame = connectBytes remote ∧
      d = .receive (Phase.requesting.reaction credentials remote) := by
  cases h with
  | note rest =>
    cases rest with
    | here => exact ⟨rfl, connectFrame_eq remote, rfl⟩
    | send _ rest =>
      cases rest with
      | receive _ rest => exact absurd rest (Phase.not_reaches_send credentials)

/-- Who proves who it is sends a name, and after a good verdict the request. -/
theorem credentials_of_reaches (credentials : Option Credentials) {who : Credentials}
    {rule rule' : Option (Framing Answer)} {frame : Except WireError Bytes} {d : Dialogue Answer}
    (h : (credentialsDialogue who remote).Reaches rule c (.send frame d) rule' start) :
    (start = c.note (.authenticating who.username) ∧ frame = credentialsBytes who ∧
      d = .receive (Phase.authenticating.reaction credentials remote)) ∨
    ∃ proved verdict rule₂ later,
      (c.note (.authenticating who.username)).send (credentialsFrame who) = (.ok (), proved) ∧
      proved.receive rule = (.ok verdict, rule₂, later) ∧ verdict.status = 0 ∧
      start = later.note (.requesting remote) ∧ frame = connectBytes remote ∧
      d = .receive (Phase.requesting.reaction credentials remote) := by
  cases h with
  | note rest =>
    cases rest with
    | here => exact .inl ⟨rfl, credentialsFrame_eq who, rfl⟩
    | send named rest =>
      cases rest with
      | receive judged rest =>
        dsimp only at rest
        split at rest
        · rename_i hstatus
          obtain ⟨hstart, hframe, hd⟩ := request_of_reaches credentials rest
          exact .inr ⟨_, _, _, _, named, judged, hstatus, hstart, hframe, hd⟩
        · cases rest

/-- Every frame that a handshake comes to send is that of a phase. -/
theorem opens_of_reaches {rule : Option (Framing Answer)} {frame : Except WireError Bytes}
    {d : Dialogue Answer}
    (h : (dialogue credentials remote).Reaches (some Answer.framing) c (.send frame d) rule start) :
    ∃ phase : Phase, Opens credentials remote c phase start ∧
      phase.frame credentials remote = some frame ∧
      d = .receive (phase.reaction credentials remote) := by
  unfold dialogue at h
  cases h with
  | here =>
    refine ⟨.offering, .offering, ?_, rfl⟩
    rw [greeting_eq]
    rfl
  | send offered rest =>
    cases rest with
    | @receive _ _ _ _ _ _ _ _ answer selected rest =>
      change (afterMethod credentials remote (Method.ofByte answer.status)).Reaches _ _ _ _ _
        at rest
      by_cases h0 : answer.status = 0
      · rw [h0] at rest
        cases rest with
        | note rest =>
          obtain ⟨rfl, rfl, hd⟩ := request_of_reaches credentials rest
          exact ⟨.requesting, .unauthenticated offered selected h0, rfl, hd⟩
      by_cases h2 : answer.status = 2
      · rw [h2] at rest
        rcases credentials with _ | who
        · cases rest
        rcases credentials_of_reaches (some who) rest with ⟨rfl, rfl, hd⟩ |
          ⟨proved, verdict, rule₂, later, named, judged, hstatus, rfl, rfl, hd⟩
        · exact ⟨.authenticating, .authenticating rfl offered selected h2, rfl, hd⟩
        · exact ⟨.requesting, .authenticated rfl offered selected h2 named judged hstatus, rfl, hd⟩
      · rw [afterMethod_of_ne h0 h2] at rest
        cases rest

end

/-- A negotiation begins a phase in this session: it comes to send the frame of
the phase, and the phase is due. -/
structure Begins (credentials : Option Credentials) (remote : Destination) (c : Session)
    (phase : Phase) (frame : Except WireError Bytes) (start : Session) : Prop where
  comes : (dialogue (effective credentials) remote).ComesToSend (some Answer.framing) c frame start
  framed : phase.frame (inUse credentials) remote = some frame
  due : ∃ used, phase.Due used ∧ c.Uses start used

variable {credentials : Option Credentials} {remote : Destination} {c start : Session}
  {phase : Phase} {frame : Except WireError Bytes}

/-- Whatever a negotiation sends begins a phase. -/
theorem begins_of_comes
    (h : (dialogue (effective credentials) remote).ComesToSend (some Answer.framing) c frame
      start) :
    ∃ phase, Begins credentials remote c phase frame start := by
  obtain ⟨d, rule, hreach⟩ := id h
  obtain ⟨phase, hopens, hframe, _⟩ := opens_of_reaches hreach
  rw [effective_eq_inUse] at hframe
  exact ⟨phase, h, hframe, hopens.due⟩

theorem Begins.opens (h : Begins credentials remote c phase frame start) :
    Opens (effective credentials) remote c phase start := by
  obtain ⟨⟨d, rule, hreach⟩, _, used, hdue, huses⟩ := h
  obtain ⟨phase', hopens, _, _⟩ := opens_of_reaches hreach
  obtain ⟨used', hdue', huses'⟩ := hopens.due
  obtain rfl : used = used' := huses.unique huses'
  obtain rfl : phase = phase' := hdue.unique hdue'
  exact hopens

/-- **A phase begins at most once.** -/
theorem Begins.unique {frame' : Except WireError Bytes} {start' : Session}
    (h : Begins credentials remote c phase frame start)
    (h' : Begins credentials remote c phase frame' start') : frame = frame' ∧ start = start' :=
  ⟨Option.some.inj (h.framed.symm.trans h'.framed), h.opens.unique h'.opens⟩

end Socks

/-- A run sends a frame in one session, and what it then receives for an answer
leaves another. -/
def Dialogue.Hears (d : Dialogue α) (rule : Option (Framing α)) (c start : Session)
    (reply : Except Failure α) (later : Session) : Prop :=
  ∃ frame next rule₁ rule₂ sent, d.Reaches rule c (.send frame (.receive next)) rule₁ start ∧
    start.send frame = (.ok (), sent) ∧ sent.receive rule₁ = (reply, rule₂, later)

/-- **A negotiation ends with the first answer that is refused.** -/
theorem Socks.run_of_refused {credentials : Option Credentials} {remote : Destination}
    {c start later : Session} {phase : Phase} {frame : Except WireError Bytes}
    {reply : Except Failure Answer} {cause : Failure}
    (h : Begins credentials remote c phase frame start)
    (hears : (dialogue (effective credentials) remote).Hears (some Answer.framing) c start reply
      later)
    (refused : phase.refusal? (inUse credentials) reply = some cause) :
    (dialogue (effective credentials) remote).run (some Answer.framing) c =
      (.error cause, later) := by
  obtain ⟨frame', next, rule₁, rule₂, sent, hreach, hsend, hreceive⟩ := hears
  obtain ⟨phase', hopens, _, hnext⟩ := opens_of_reaches hreach
  obtain rfl : phase = phase' := by
    obtain ⟨used, hdue, huses⟩ := h.due
    obtain ⟨used', hdue', huses'⟩ := hopens.due
    exact (huses.unique huses' ▸ hdue).unique hdue'
  cases hnext
  rw [hreach.run_eq, Dialogue.run, hsend]
  dsimp only
  rw [Dialogue.run, hreceive]
  rcases reply with e | answer
  · cases refused
    rfl
  · rw [← effective_eq_inUse] at refused
    dsimp only
    rw [Phase.reaction_of_objection refused]
    rfl

/-- **No phase of a SOCKS5 handshake begins before the answer to the last one was
accepted.** In every session, with anything buffered, and whatever the
environment does:

* the bytes that the socket takes are the beginning of the requests;
* each of them belongs to a phase, and was written after the phase began; by then
  the bytes that the phase is due after had been used up (`Socks.Begins`);
* every phase begins at most once;
* if what comes for an answer to a phase is refused, the negotiation fails at
  once, and nothing more happens. -/
theorem Handshake.negotiate_phases (credentials : Option Credentials) (remote : Destination)
    (c : Session) :
    let after := (Handshake.mk .socks5 credentials).negotiate remote c
    let begins := Socks.Begins credentials remote c
    (∃ frames : List Bytes,
      frames.map .ok <+: Socks.requests credentials remote (c.stream.getD 1 0) ∧
        c.Writes after.2 frames.flatten) ∧
    (∀ xs bytes, c.journal.Adds after.2.journal xs (.event (.wrote bytes)) →
      ∃ phase frame start, begins phase frame start ∧
        start.journal.Adds (start.send frame).2.journal xs (.event (.wrote bytes))) ∧
    (∀ phase frame frame' start start', begins phase frame start → begins phase frame' start' →
      frame = frame' ∧ start = start') ∧
    ∀ phase frame start reply later cause, begins phase frame start →
      (Socks.dialogue (Socks.effective credentials) remote).Hears (some Socks.Answer.framing) c
        start reply later →
      phase.refusal? (Socks.inUse credentials) reply = some cause →
        after = (.error cause, later) := by
  intro after begins
  have hfit : Framing.AllFit 262 (some Socks.Answer.framing) := by
    rintro r ⟨⟩
    exact Socks.fits_framing
  refine ⟨?_, ?_, ?_, ?_⟩
  · have hwritten := (Socks.dialogue (Socks.effective credentials) remote).written_run
      (Socks.fits_framing.resumed c.buffer) hfit
    rw [Socks.settle_dialogue] at hwritten
    exact ⟨_, (Socks.sent_outcome credentials remote c.stream).1, hwritten⟩
  · intro xs bytes hadds
    obtain ⟨frame, start, hcomes, hsent⟩ := Dialogue.wrote_run _ hadds
    obtain ⟨phase, hbegins⟩ := Socks.begins_of_comes hcomes
    exact ⟨phase, frame, start, hbegins, hsent⟩
  · exact fun _ _ _ _ _ h h' => h.unique h'
  · exact fun _ _ _ _ _ _ h hears refused => Socks.run_of_refused h hears refused

/-- A session with one byte of the answer buffered already. The proxy selects
credentials and then rejects them. -/
def warySession : Session :=
  { Session.start (.ofSocket ⟨[.ready [2, 1], .ready [1, 5]], [.ready (some 1), .pending], [], [],
    []⟩) ⟨4, 262⟩ true with buffer := [5] }

/-- What a client with credentials makes of it. -/
def negotiateWary : Except Failure Unit × Session :=
  (Handshake.mk .socks5 (some ⟨"u", "p"⟩)).negotiate (.ip (.ip4 ⟨10, 0, 0, 1⟩ 80)) warySession

/-- The client has written the beginning of its three requests, and the frame with
its name belongs to a phase that was due. -/
theorem Handshake.negotiate_phases_wary :
    negotiateWary.1 = .error (.socks .credentialsRejected) ∧
      (∃ frames : List Bytes, frames.map (Except.ok : Bytes → Except WireError Bytes) <+:
        openRequests.map .ok ∧ warySession.Writes negotiateWary.2 frames.flatten) ∧
      ∃ phase frame start, Socks.Begins (some ⟨"u", "p"⟩) (.ip (.ip4 ⟨10, 0, 0, 1⟩ 80))
        warySession phase frame start ∧ ∃ xs, start.journal.Adds (start.send frame).2.journal xs
          (.event (.wrote [1, 1, 117, 1, 112])) := by
  obtain ⟨⟨frames, hframes, hwritten⟩, hbegins, _⟩ := Handshake.negotiate_phases (some ⟨"u", "p"⟩)
    (.ip (.ip4 ⟨10, 0, 0, 1⟩ 80)) warySession
  have hmem : .event (.wrote [1, 1, 117, 1, 112]) ∈ negotiateWary.2.journal := by decide +kernel
  obtain ⟨xs, rest, hsplit⟩ := List.append_of_mem hmem
  have hadds : warySession.journal.Adds negotiateWary.2.journal xs
      (.event (.wrote [1, 1, 117, 1, 112])) := by
    refine ⟨List.nil_prefix, rest, ?_⟩
    rw [hsplit, List.append_assoc]
    rfl
  obtain ⟨phase, frame, start, hphase, hsent⟩ := hbegins xs _ hadds
  exact ⟨by decide +kernel, ⟨frames, hframes, hwritten⟩, phase, frame, start, hphase, xs, hsent⟩

end ProxyTunnel
