/-
Handshakes: the protocol of a proxy together with the credentials for it.
-/
import ProxyTunnel.Http.Handshake
import ProxyTunnel.ProxyUrl
import ProxyTunnel.Socks.Handshake

set_option autoImplicit false

namespace ProxyTunnel

/-- How to talk to a proxy. -/
structure Handshake where
  kind : ProxyKind
  credentials : Option Credentials
  deriving DecidableEq

/-- Negotiates a tunnel to a destination in a session. -/
def Handshake.negotiate (h : Handshake) (remote : Destination) (c : Session) :
    Except Failure Unit × Session :=
  match h.kind with
  | .socks5 =>
    (Socks.dialogue (Socks.effective h.credentials) remote).run (some Socks.Answer.framing) c
  | .http => (Http.dialogue (Http.effective h.credentials) remote).run (some Http.framing) c

/-- A negotiation forgets nothing of what happened before it. -/
theorem Handshake.follows_negotiate (h : Handshake) (remote : Destination) (c : Session) :
    c.Follows (h.negotiate remote c).2 := by
  unfold negotiate
  split <;> exact Dialogue.follows_run _ _ c

end ProxyTunnel
