/-
The five ways of an attempt.

An attempt on a route is withdrawn before it begins, has no destination, is
abandoned while the transport opens, cannot open the transport, or negotiates on
the transport once that has opened (`Route.Runs`). Whatever is proved of
attempts is proved from these cases. Only the last of them touches the socket,
so the journal tells them apart: nothing but waits and fired tokens stands in it
before the transport opens (`Route.idle_dial`).
-/
import ProxyTunnel.Proofs.Sides
import ProxyTunnel.Route

set_option autoImplicit false

namespace ProxyTunnel

namespace Journal

/-- From one journal to a later one, with nothing but waits and fired tokens. -/
def Idles (a b : Journal) : Prop :=
  ∃ added, b = a ++ added ∧ ∀ entry ∈ added, entry = .yielded ∨ ∃ token, entry = .fired token

variable {a b c : Journal}

theorem Idles.refl (a : Journal) : a.Idles a :=
  ⟨[], (List.append_nil a).symm, List.forall_mem_nil _⟩

theorem Idles.trans (h : a.Idles b) (h' : b.Idles c) : a.Idles c := by
  obtain ⟨xs, rfl, hx⟩ := h
  obtain ⟨ys, rfl, hy⟩ := h'
  exact ⟨xs ++ ys, List.append_assoc _ _ _, List.forall_mem_append.2 ⟨hx, hy⟩⟩

/-- Waits and fired tokens are no events, and no transport opens by them. -/
theorem Idles.added (h : a.Idles b) :
    ∃ added, b = a ++ added ∧ added.events = [] ∧ .opened ∉ added := by
  obtain ⟨added, rfl, hall⟩ := h
  refine ⟨added, rfl, ?_, ?_⟩
  · unfold events
    rw [List.filterMap_eq_nil_iff]
    intro entry he
    rcases hall entry he with rfl | ⟨token, rfl⟩ <;> rfl
  · intro ho
    rcases hall _ ho with h | ⟨token, h⟩ <;> cases h

end Journal

theorem Script.idles_poll {α : Type} (rest : α) (script : Script α) (journal : Journal) :
    journal.Idles (poll rest script journal).2.2 := by
  induction script generalizing journal with
  | nil => exact .refl journal
  | cons step script ih =>
    rcases step with value | e | _ | token
    · exact .refl journal
    · exact .refl journal
    · exact ⟨[.yielded], rfl, by simp⟩
    · have hone : journal.Idles (journal ++ [.fired token]) := ⟨[.fired token], rfl, by simp⟩
      exact hone.trans (ih _)

namespace Route

/-- Opening the transport leaves the socket alone. -/
theorem idle_dial (script : Script Unit) (journal : Journal) :
    journal.Idles (dial script journal).2.2 :=
  (dialing.map some).await_keeps _ (fun a b => a.2.Idles b.2) (fun _ _ _ h h' => h.trans h')
    (fun state => Script.idles_poll () state.1 state.2) (script, journal)

/-- The session in which the handshake runs, on a transport that has just
opened. -/
def opened (k : Route) (transport : Tunnel) (journal : Journal) : Session :=
  .start { transport with socket := { transport.socket with journal := journal ++ [.opened] } }
    k.limits true

/-- How an attempt may go. -/
inductive Runs (k : Route) (script : Script Unit) (transport : Tunnel) :
    Except AddressError Destination → Outcome → Prop
  /-- The token had fired before. -/
  | withdrawn {remote : Except AddressError Destination}
      (fired : transport.socket.journal.hasFired Session.attemptToken = true) :
      Runs k script transport remote (.failed .cancelled transport.socket)
  | misaddressed {e : AddressError}
      (unfired : transport.socket.journal.hasFired Session.attemptToken = false) :
      Runs k script transport (.error e) (.failed (.address e) transport.socket)
  /-- The token fired while the transport opened. -/
  | abandoned {remote : Destination} {left : Script Unit} {journal : Journal}
      (unfired : transport.socket.journal.hasFired Session.attemptToken = false)
      (dialed : dial script transport.socket.journal = (none, left, journal)) :
      Runs k script transport (.ok remote) (.failed .cancelled { transport.socket with journal })
  | unreachable {remote : Destination} {e : SocketError} {left : Script Unit} {journal : Journal}
      (unfired : transport.socket.journal.hasFired Session.attemptToken = false)
      (dialed : dial script transport.socket.journal = (some (.error e), left, journal)) :
      Runs k script transport (.ok remote) (.failed (.transport e)
        (({ transport.socket with journal } : Socket).record
          (.notice (.proxyUnreachable k.proxy e))))
  | negotiated {remote : Destination} {left : Script Unit} {journal : Journal}
      (unfired : transport.socket.journal.hasFired Session.attemptToken = false)
      (dialed : dial script transport.socket.journal = (some (.ok ()), left, journal)) :
      Runs k script transport (.ok remote)
        (k.conclude remote (k.negotiate remote (k.opened transport journal)))

/-- Every attempt goes one of these ways. -/
theorem runs_connect (k : Route) (remote : Except AddressError Destination) (script : Script Unit)
    (transport : Tunnel) : k.Runs script transport remote (k.connect remote script transport) := by
  unfold connect
  by_cases hfired : transport.socket.journal.hasFired Session.attemptToken
  · rw [if_pos hfired]
    exact .withdrawn hfired
  rw [if_neg hfired]
  rw [Bool.not_eq_true] at hfired
  rcases remote with e | remote
  · exact .misaddressed hfired
  dsimp only
  unfold connectTo
  rcases hdial : dial script transport.socket.journal with ⟨_ | (e | ⟨⟩), left, journal⟩
  · exact .abandoned hfired hdial
  · exact .unreachable hfired hdial
  · exact .negotiated hfired hdial

/-- **An attempt leaves the socket alone until the transport has opened:** it
fails before that, or it negotiates. -/
theorem fails_or_negotiates (k : Route) (remote : Except AddressError Destination)
    (script : Script Unit) (transport : Tunnel) :
    (∃ cause socket added, k.connect remote script transport = .failed cause socket ∧
      socket.journal = transport.socket.journal ++ added ∧ added.events = [] ∧
      .opened ∉ added) ∨
    ∃ destination left journal, remote = .ok destination ∧
      dial script transport.socket.journal = (some (.ok ()), left, journal) ∧
      k.connect remote script transport =
        k.conclude destination (k.negotiate destination (k.opened transport journal)) := by
  have hruns := k.runs_connect remote script transport
  generalize k.connect remote script transport = outcome at hruns ⊢
  have hidle := idle_dial script transport.socket.journal
  cases hruns with
  | withdrawn => exact .inl ⟨_, _, [], rfl, (List.append_nil _).symm, rfl, List.not_mem_nil⟩
  | misaddressed => exact .inl ⟨_, _, [], rfl, (List.append_nil _).symm, rfl, List.not_mem_nil⟩
  | abandoned _ dialed =>
    rw [dialed] at hidle
    obtain ⟨added, hadded, hnone, hclosed⟩ := hidle.added
    exact .inl ⟨_, _, added, rfl, hadded, hnone, hclosed⟩
  | @unreachable _ e _ journal _ dialed =>
    rw [dialed] at hidle
    obtain ⟨added, hadded, hnone, hclosed⟩ := hidle.added
    refine .inl ⟨_, _, added ++ [.notice (.proxyUnreachable k.proxy e)], rfl, ?_, ?_, ?_⟩
    · change journal ++ _ = _
      rw [show journal = _ from hadded, List.append_assoc]
    · rw [Journal.events_append, hnone]
      rfl
    · rw [List.mem_append, List.mem_singleton]
      rintro (ho | ho)
      · exact hclosed ho
      · cases ho
  | negotiated _ dialed => exact .inr ⟨_, _, _, rfl, dialed, rfl⟩

end Route

end ProxyTunnel
