/-
Receiving: the packages of a session are the packages of its stream.

A session cuts packages off a buffer that grows read by read. Take the stream
of a session to be its buffer and everything that is still to be read
(`Session.stream`). Then there is a receiver without a buffer: it looks at the
whole stream and cuts once (`Framing.pick`). What a session receives is what
that receiver picks (`Session.receive_spec`), with one proviso. A session may
fail where the receiver does not, if its socket fails, its token fires, the end
comes early or its limit is too small; in a settled session none of that
happens (`Session.Settled`). It never succeeds with anything else.
-/
import ProxyTunnel.Proofs.Calm
import ProxyTunnel.Proofs.Frames

set_option autoImplicit false

namespace ProxyTunnel

open Event

variable {α : Type}

/-! ## A receiver that sees the whole stream -/

namespace Framing

/-- The next package of a stream, the rule after it, and the bytes it leaves.
A stream without a whole frame is closed. -/
def pick (rule : Option (Framing α)) (stream : Bytes) :
    Except Failure α × Option (Framing α) × Bytes :=
  match rule with
  | none => (.error .closed, none, stream)
  | some rule =>
    match (rule.cut stream).answer with
    | .package content next => (.ok content, some (next.getD rule), (rule.cut stream).rest)
    | .refused e => (.error (.wire e), none, (rule.cut stream).rest)
    | .waiting => (.error .closed, some rule, stream)

theorem pick_of_package {rule : Framing α} {stream : Bytes} {content : α}
    {next : Option (Framing α)} (h : (rule.cut stream).answer = .package content next) :
    pick (some rule) stream = (.ok content, some (next.getD rule), (rule.cut stream).rest) := by
  rw [pick]
  simp only [h]

theorem pick_of_refused {rule : Framing α} {stream : Bytes} {e : WireError}
    (h : (rule.cut stream).answer = .refused e) :
    pick (some rule) stream = (.error (.wire e), none, (rule.cut stream).rest) := by
  rw [pick]
  simp only [h]

theorem pick_of_waiting {rule : Framing α} {stream : Bytes}
    (h : (rule.cut stream).answer = .waiting) :
    pick (some rule) stream = (.error .closed, some rule, stream) := by
  rw [pick]
  simp only [h]

/-- Picks packages up to and with the first that satisfies `last`. -/
def seek (last : α → Bool) (rule : Option (Framing α)) (stream : Bytes) :
    Except Failure Unit × Option (Framing α) × Bytes :=
  match pick rule stream with
  | (.error e, rule, rest) => (.error e, rule, rest)
  | (.ok content, rule, rest) =>
    if last content then (.ok (), rule, rest)
    else if _h : rest.length < stream.length then seek last rule rest
    else (.error .closed, rule, rest)
termination_by stream.length

section

variable {last : α → Bool} {rule next : Option (Framing α)} {stream rest : Bytes}

theorem seek_of_error {e : Failure} (h : pick rule stream = (.error e, next, rest)) :
    seek last rule stream = (.error e, next, rest) := by
  rw [seek]
  split <;> rename_i heq <;> rw [h] at heq <;> cases heq
  rfl

theorem seek_of_last {content : α} (h : pick rule stream = (.ok content, next, rest))
    (hlast : last content = true) : seek last rule stream = (.ok (), next, rest) := by
  rw [seek]
  split <;> rename_i heq <;> rw [h] at heq <;> cases heq
  rw [if_pos hlast]

theorem seek_of_lt {content : α} (h : pick rule stream = (.ok content, next, rest))
    (hlast : last content = false) (hlt : rest.length < stream.length) :
    seek last rule stream = seek last next rest := by
  rw [seek]
  split <;> rename_i heq <;> rw [h] at heq <;> cases heq
  rw [hlast, if_neg Bool.false_ne_true, dif_pos hlt]

theorem seek_of_not_lt {content : α} (h : pick rule stream = (.ok content, next, rest))
    (hlast : last content = false) (hle : ¬ rest.length < stream.length) :
    seek last rule stream = (.error .closed, next, rest) := by
  rw [seek]
  split <;> rename_i heq <;> rw [h] at heq <;> cases heq
  rw [hlast, if_neg Bool.false_ne_true, dif_neg hle]

end

/-- Whatever a rule waits for, and every rule after it, fits. -/
def AllFit (n : Nat) (rule : Option (Framing α)) : Prop := ∀ r, rule = some r → r.Fits n

theorem Fits.allFit {n : Nat} {rule : Framing α} (h : rule.Fits n) : AllFit n (some rule) := by
  rintro r ⟨⟩
  exact h

/-- A rule in the middle of a stream, and the rule that starts on all of it. -/
def Resumed (rule : Option (Framing α)) (buffer : Bytes) (start : Option (Framing α)) : Prop :=
  rule.map restart = start ∧ ∀ r, rule = some r → r.Resumes buffer

theorem Fits.restart_eq {n : Nat} {rule : Framing α} (h : rule.Fits n) : rule.restart = rule := by
  cases h <;> rfl

theorem Fits.resumed {n : Nat} {rule : Framing α} (h : rule.Fits n) (buffer : Bytes) :
    Resumed (some rule) buffer (some rule) := by
  refine ⟨congrArg some h.restart_eq, ?_⟩
  rintro r ⟨⟩
  rw [← h.restart_eq]
  exact resumes_restart rule buffer

theorem Resumed.append {rule start : Option (Framing α)} {buffer : Bytes}
    (h : Resumed rule buffer start) (more : Bytes) : Resumed rule (buffer ++ more) start :=
  ⟨h.1, fun r hr => (h.2 r hr).append more⟩

/-- A rule that waits resumes later where it is. -/
theorem resumed_of_waiting {rule rule' : Framing α} {buffer rest : Bytes}
    (hr : rule.Resumes buffer) (hcut : rule.cut buffer = ⟨.waiting, rule', rest⟩) :
    (rule.restart.cut buffer).answer = .waiting ∧
      Resumed (some rule') buffer (some rule.restart) := by
  obtain ⟨hanswer, _, hrestart, hagain⟩ := cut_of_resumes hr
  have hsame : (rule.cut buffer).rest = buffer := rest_cut_of_waiting (by rw [hcut])
  rw [hcut] at hanswer hrestart hagain hsame
  refine ⟨hanswer.symm, congrArg some hrestart, ?_⟩
  rintro r ⟨⟩
  rw [← hsame]
  exact hagain

theorem resumed_none (buffer : Bytes) : Resumed (none : Option (Framing α)) buffer none :=
  ⟨rfl, nofun⟩

theorem AllFit.pick {n : Nat} {rule : Option (Framing α)} (h : AllFit n rule) (stream : Bytes) :
    AllFit n (pick rule stream).2.1 := by
  rcases rule with _ | rule
  · exact h
  rcases ha : (rule.cut stream).answer with _ | ⟨content, next⟩ | e
  · rw [pick_of_waiting ha]
    exact h
  · rw [pick_of_package ha]
    rintro r ⟨⟩
    rcases next with _ | next
    · exact h rule rfl
    · exact (h rule rfl).next ha
  · rw [pick_of_refused ha]
    rintro r ⟨⟩

theorem AllFit.seek {n : Nat} {last : α → Bool} {rule : Option (Framing α)} (h : AllFit n rule)
    (stream : Bytes) : AllFit n (seek last rule stream).2.1 := by
  fun_induction Framing.seek last rule stream with
  | case1 rule stream e next rest hpick =>
    have key := h.pick stream
    rwa [hpick] at key
  | case2 rule stream content next rest hpick hlast =>
    have key := h.pick stream
    rwa [hpick] at key
  | case3 rule stream content next rest hpick hlast hlt ih =>
    have key := h.pick stream
    rw [hpick] at key
    exact ih key
  | case4 rule stream content next rest hpick hlast hle =>
    have key := h.pick stream
    rwa [hpick] at key

end Framing

/-! ## Sessions and their streams -/

namespace Session

/-- The bytes that a session has received and not used, and those still to be
read. -/
def stream (c : Session) : Bytes := c.buffer ++ c.tunnel.unread

/-- Nothing can come in the way: the environment is calm, the sender is usable,
the end is not seen before it comes, and every frame fits. -/
structure Settled (n : Nat) (c : Session) : Prop where
  calm : c.tunnel.socket.Calm c.token
  usable : c.disposed = false
  ended : c.ended = true → c.tunnel.unread = []
  room : n ≤ c.limits.maxPackage

/-- From one session to a later one, with nothing sent. -/
structure Hears (c d : Session) : Prop where
  events : ∃ events, c.journal.Gains d.journal events ∧ events.all isRead
  disposed : d.disposed = c.disposed
  settled : ∀ n, c.Settled n → d.Settled n

theorem Hears.refl (c : Session) : c.Hears c := ⟨⟨[], Journal.Gains.refl _, rfl⟩, rfl, fun _ h => h⟩

theorem Hears.trans {a b c : Session} (h : a.Hears b) (h' : b.Hears c) : a.Hears c where
  events := by
    obtain ⟨es, hg, hr⟩ := h.events
    obtain ⟨es', hg', hr'⟩ := h'.events
    refine ⟨es ++ es', hg.trans hg', ?_⟩
    rw [List.all_append, hr, hr']
    rfl
  disposed := h'.disposed.trans h.disposed
  settled n hs := h'.settled n (h.settled n hs)

/-- Using up what is buffered is hearing nothing. -/
theorem hears_buffer (c : Session) (buffer : Bytes) : c.Hears { c with buffer } :=
  ⟨⟨[], Journal.Gains.refl _, rfl⟩, rfl, fun _ h => ⟨h.calm, h.usable, h.ended, h.room⟩⟩

theorem room_pos (limits : Limits) : 0 < limits.room :=
  Nat.lt_of_lt_of_le Nat.one_pos (Nat.le_max_right _ _)

/-- A fetch brings the next bytes, or fails and leaves them where they are. -/
theorem heard_fetch (c : Session) : ∃ bytes, c.tunnel.Heard bytes c.fetch.2 ∧
    (c.fetch.1 = .ok bytes ∨ bytes = [] ∧ ∃ e, c.fetch.1 = .error e) := by
  obtain ⟨bytes, hh, hr⟩ := Tunnel.heard_await c.limits.room
    (·.mapError Failure.socket) c.giveUp c.tunnel
  refine ⟨bytes, hh, hr.imp_right ?_⟩
  rintro ⟨hnil, ⟨e, hr⟩ | hr⟩
  · exact ⟨hnil, _, hr⟩
  · unfold giveUp at hr
    split at hr
    · exact ⟨hnil, _, (Option.some.inj hr).symm⟩
    · cases hr

/-- In a settled session a fetch never fails. -/
theorem fetch_of_settled {n : Nat} {c : Session} (h : c.Settled n) :
    ∃ bytes, c.tunnel.Heard bytes c.fetch.2 ∧ c.fetch.1 = .ok bytes ∧
      (bytes = [] → c.fetch.2.unread = []) := by
  refine Tunnel.calm_await (room_pos c.limits) (·.mapError Failure.socket) ?_ h.calm
  intro t ht
  rw [giveUp, ht.unfired, Bool.and_false]
  rfl

/-- A session after a fetch that brought bytes. -/
theorem hears_fetched {c : Session} {bytes : Bytes} {t : Tunnel} (h : c.fetch = (.ok bytes, t))
    (hne : bytes ≠ []) : c.Hears { c with tunnel := t, buffer := c.buffer ++ bytes } ∧
      ({ c with tunnel := t, buffer := c.buffer ++ bytes } : Session).stream = c.stream := by
  obtain ⟨bytes', hh, hr⟩ := heard_fetch c
  rw [h] at hh hr
  have hb : bytes' = bytes := by
    rcases hr with hr | ⟨_, _, hr⟩ <;> cases hr
    rfl
  subst hb
  refine ⟨⟨hh.events, rfl, ?_⟩, ?_⟩
  · intro n hs
    refine ⟨hh.calm _ hs.calm, hs.usable, ?_, hs.room⟩
    intro hend
    have hnone := hh.unread
    rw [hs.ended hend] at hnone
    exact absurd (List.append_eq_nil_iff.1 hnone.symm).1 hne
  · rw [stream, stream, hh.unread, List.append_assoc]

/-! ## One package -/

/-- A session has arrived where a receiver of the whole stream arrives: with
this result, with a rule that goes on as the receiver's, and with the bytes that
the receiver leaves. -/
def Agrees {β : Type} (expected : Except Failure β × Option (Framing α) × Bytes)
    (result : Except Failure β) (rule : Option (Framing α)) (d : Session) : Prop :=
  ∃ next, expected = (result, next, d.stream) ∧ Framing.Resumed rule d.buffer next

/-- A session that still waits when its stream is over has received the end. -/
theorem agrees_of_waiting {start rule : Framing α} {stream : Bytes} {d : Session}
    (hr : Framing.Resumed (some rule) d.buffer (some start))
    (ha : (start.cut d.buffer).answer = .waiting) (hend : d.tunnel.unread = [])
    (hstream : d.stream = stream) :
    Agrees (Framing.pick (some start) stream) (.error .closed) (some rule) d := by
  have hbuffer : stream = d.buffer := by
    rw [← hstream, Session.stream, hend, List.append_nil]
  refine ⟨some start, ?_, hr⟩
  rw [Framing.pick_of_waiting (hbuffer ▸ ha), hstream]

/-- What a rule makes of the buffer, its restart makes of the whole stream. -/
theorem cut_stream {n : Nat} {rule : Framing α} {c : Session} (hr : rule.Resumes c.buffer)
    (hf : rule.restart.Fits n) (h : (rule.cut c.buffer).answer ≠ .waiting) :
    (rule.restart.cut c.stream).answer = (rule.cut c.buffer).answer ∧
      (rule.restart.cut c.stream).rest = (rule.cut c.buffer).rest ++ c.tunnel.unread := by
  obtain ⟨hanswer, hrest, _, _⟩ := Framing.cut_of_resumes hr
  rw [hanswer] at h
  rw [stream, Framing.cut_append hf h, hanswer, hrest]
  exact ⟨rfl, rfl⟩

/-- A package that a rule cuts off the buffer is the next one of the stream. -/
theorem agrees_of_package {n : Nat} {rule after : Framing α} {content : α}
    {successor : Option (Framing α)} {rest : Bytes} {c : Session} (hr : rule.Resumes c.buffer)
    (hf : rule.restart.Fits n) (hcut : rule.cut c.buffer = ⟨.package content successor, after, rest⟩) :
    Agrees (Framing.pick (some rule.restart) c.stream) (.ok content) (some (successor.getD after))
      { c with buffer := rest } := by
  obtain ⟨_, _, hrestart, hagain⟩ := Framing.cut_of_resumes hr
  have hcuts : (rule.cut c.buffer).answer ≠ .waiting := by
    rw [hcut]
    exact nofun
  obtain ⟨hanswer, hrest⟩ := cut_stream hr hf hcuts
  rw [hcut] at hanswer hrest hrestart hagain
  refine ⟨some (successor.getD rule.restart), ?_, ?_⟩
  · rw [Framing.pick_of_package hanswer, hrest]
    rfl
  · rcases successor with _ | next
    · exact ⟨congrArg some hrestart, by rintro r ⟨⟩; exact hagain⟩
    · exact (hf.next hanswer).resumed rest

/-- So is a refusal. -/
theorem agrees_of_refused {n : Nat} {rule after : Framing α} {e : WireError} {rest : Bytes}
    {c : Session} (hr : rule.Resumes c.buffer) (hf : rule.restart.Fits n)
    (hcut : rule.cut c.buffer = ⟨.refused e, after, rest⟩) :
    Agrees (Framing.pick (some rule.restart) c.stream) (.error (.wire e)) none
      { c with buffer := rest } := by
  have hcuts : (rule.cut c.buffer).answer ≠ .waiting := by
    rw [hcut]
    exact nofun
  obtain ⟨hanswer, hrest⟩ := cut_stream hr hf hcuts
  rw [hcut] at hanswer hrest
  refine ⟨none, ?_, Framing.resumed_none _⟩
  rw [Framing.pick_of_refused hanswer, hrest]
  rfl

/-- **What a session receives, its stream holds.** Only a session that is not
settled may fail where its stream does not. -/
theorem next_spec {n : Nat} {rule start : Option (Framing α)} {c : Session}
    (hr : Framing.Resumed rule c.buffer start) (hf : Framing.AllFit n start) :
    c.Hears (c.next rule).2.2 ∧
      (Agrees (Framing.pick start c.stream) ((c.next rule).1.getD (.error .closed))
          (c.next rule).2.1 (c.next rule).2.2 ∨
        ¬ c.Settled n ∧ ∃ e, (c.next rule).1.getD (.error .closed) = .error e) := by
  -- every read appends to the buffer what it takes from the tunnel, so the stream
  -- is the same from read to read; the cases are the exits of that loop
  fun_induction next rule c with
  | case1 c =>
    obtain rfl : none = start := hr.1
    exact ⟨Hears.refl c, .inl ⟨none, rfl, Framing.resumed_none _⟩⟩
  | case2 c rule content successor rule' rest hcut =>
    obtain rfl : some rule.restart = start := hr.1
    exact ⟨hears_buffer c rest, .inl (agrees_of_package (hr.2 rule rfl) (hf _ rfl) hcut)⟩
  | case3 c rule e rule' rest hcut =>
    obtain rfl : some rule.restart = start := hr.1
    exact ⟨hears_buffer c rest, .inl (agrees_of_refused (hr.2 rule rfl) (hf _ rfl) hcut)⟩
  | case4 c rule rule' rest hcut hend =>
    obtain rfl : some rule.restart = start := hr.1
    obtain ⟨hanswer, hagain⟩ := Framing.resumed_of_waiting (hr.2 rule rfl) hcut
    refine ⟨Hears.refl c, ?_⟩
    by_cases hs : c.Settled n
    · exact .inl (agrees_of_waiting hagain hanswer (hs.ended hend) rfl)
    · exact .inr ⟨hs, _, rfl⟩
  | case5 c rule rule' rest hcut _ hfull =>
    obtain rfl : some rule.restart = start := hr.1
    obtain ⟨hanswer, _⟩ := Framing.resumed_of_waiting (hr.2 rule rfl) hcut
    -- a settled session has room for everything the rule waits for
    have hlt := Framing.length_lt_of_waiting (hf _ rfl) hanswer
    refine ⟨Hears.refl c, .inr ⟨?_, _, rfl⟩⟩
    intro hs
    have hroom := hs.room
    omega
  | case6 c rule rule' rest hcut _ _ e t hfetch =>
    obtain ⟨bytes, hh, _⟩ := heard_fetch c
    rw [hfetch] at hh
    have hnot : ∀ k, ¬ c.Settled k := by
      intro k hs
      obtain ⟨_, _, hok, _⟩ := fetch_of_settled hs
      rw [hfetch] at hok
      cases hok
    exact ⟨⟨hh.events, rfl, fun k hs => absurd hs (hnot k)⟩, .inr ⟨hnot n, e, rfl⟩⟩
  | case7 c rule rule' rest hcut _ _ t hfetch =>
    obtain rfl : some rule.restart = start := hr.1
    obtain ⟨hanswer, hagain⟩ := Framing.resumed_of_waiting (hr.2 rule rfl) hcut
    obtain ⟨bytes, hh, hbytes⟩ := heard_fetch c
    rw [hfetch] at hh hbytes
    have hnil : bytes = [] := by
      rcases hbytes with hb | ⟨hb, _⟩
      · exact (Except.ok.inj hb).symm
      · exact hb
    subst hnil
    -- an empty read is the end only in a settled session
    have hend : ∀ k, c.Settled k → t.unread = [] := by
      intro k hs
      obtain ⟨bytes, _, hok, hend⟩ := fetch_of_settled hs
      rw [hfetch] at hok hend
      exact hend (Except.ok.inj hok).symm
    refine ⟨⟨hh.events, rfl, ?_⟩, ?_⟩
    · intro k hs
      exact ⟨hh.calm _ hs.calm, hs.usable, fun _ => hend k hs, hs.room⟩
    by_cases hs : c.Settled n
    · refine .inl (agrees_of_waiting hagain hanswer (hend n hs) ?_)
      rw [stream, stream, hh.unread, List.nil_append]
    · exact .inr ⟨hs, _, rfl⟩
  | case8 c rule rule' rest hcut _ _ bytes t hfetch hne ih =>
    obtain rfl : some rule.restart = start := hr.1
    obtain ⟨_, hagain⟩ := Framing.resumed_of_waiting (hr.2 rule rfl) hcut
    obtain ⟨hhears, hstream⟩ := hears_fetched hfetch hne
    obtain ⟨hh, hpicks⟩ := ih (hagain.append bytes)
    rw [hstream] at hpicks
    refine ⟨hhears.trans hh, hpicks.imp_right ?_⟩
    rintro ⟨hnot, he⟩
    refine ⟨?_, he⟩
    intro hs
    exact hnot (hhears.settled n hs)

theorem receive_eq (rule : Option (Framing α)) (c : Session) :
    c.receive rule =
      ((c.next rule).1.getD (.error .closed), (c.next rule).2.1, (c.next rule).2.2) := by
  unfold receive
  rcases c.next rule with ⟨_ | result, rule', d⟩ <;> rfl

/-- As `next_spec`; the end of the stream is a failure. -/
theorem receive_spec {n : Nat} {rule start : Option (Framing α)} {c : Session}
    (hr : Framing.Resumed rule c.buffer start) (hf : Framing.AllFit n start) :
    c.Hears (c.receive rule).2.2 ∧
      (Agrees (Framing.pick start c.stream) (c.receive rule).1 (c.receive rule).2.1
          (c.receive rule).2.2 ∨
        ¬ c.Settled n ∧ ∃ e, (c.receive rule).1 = .error e) := by
  rw [receive_eq]
  exact next_spec hr hf

/-- A package that a session receives is the next one of its stream. -/
theorem receive_of_ok {n : Nat} {rule start rule' : Option (Framing α)} {c d : Session}
    {content : α} (hr : Framing.Resumed rule c.buffer start) (hf : Framing.AllFit n start)
    (h : c.receive rule = (.ok content, rule', d)) :
    c.Hears d ∧ ∃ next, Framing.pick start c.stream = (.ok content, next, d.stream) ∧
      Framing.Resumed rule' d.buffer next ∧ Framing.AllFit n next := by
  obtain ⟨hh, ⟨next, hp, hnext⟩ | ⟨_, e, he⟩⟩ := receive_spec hr hf
  · have hfits := hf.pick c.stream
    rw [hp] at hfits
    rw [h] at hh hp hnext
    exact ⟨hh, next, hp, hnext, hfits⟩
  · rw [h] at he
    cases he

/-! ## Packages up to one -/

theorem pendingBytes_eq (c : Session) : c.pendingBytes = c.stream.length := by
  rw [pendingBytes, stream, List.length_append]

/-- **What a session skips, its stream holds.** -/
theorem skipTo_spec {n : Nat} (last : α → Bool) {rule start : Option (Framing α)} {c : Session}
    (hr : Framing.Resumed rule c.buffer start) (hf : Framing.AllFit n start) :
    c.Hears (c.skipTo last rule).2.2 ∧
      (Agrees (Framing.seek last start c.stream) (c.skipTo last rule).1 (c.skipTo last rule).2.1
          (c.skipTo last rule).2.2 ∨
        ¬ c.Settled n ∧ ∃ e, (c.skipTo last rule).1 = .error e) := by
  -- the recursion of a session is that of the receiver, package by package
  fun_induction skipTo last rule c generalizing start with
  | case1 rule c e rule' d hreceive =>
    obtain ⟨hh, hp⟩ := receive_spec hr hf
    rw [hreceive] at hh hp
    refine ⟨hh, ?_⟩
    rcases hp with ⟨next, hp, hnext⟩ | ⟨hnot, _⟩
    · exact .inl ⟨next, Framing.seek_of_error hp, hnext⟩
    · exact .inr ⟨hnot, e, rfl⟩
  | case2 rule c content rule' d hreceive hlast =>
    obtain ⟨hh, next, hp, hnext, _⟩ := receive_of_ok hr hf hreceive
    exact ⟨hh, .inl ⟨next, Framing.seek_of_last hp hlast, hnext⟩⟩
  | case3 rule c content rule' d hreceive hlast hlt ih =>
    obtain ⟨hh, next, hp, hnext, hfits⟩ := receive_of_ok hr hf hreceive
    rw [Bool.not_eq_true] at hlast
    rw [pendingBytes_eq, pendingBytes_eq] at hlt
    obtain ⟨hh', hrest⟩ := ih hnext hfits
    rw [Framing.seek_of_lt hp hlast hlt]
    refine ⟨hh.trans hh', hrest.imp_right ?_⟩
    rintro ⟨hnot, he⟩
    refine ⟨?_, he⟩
    intro hs
    exact hnot (hh.settled n hs)
  | case4 rule c content rule' d hreceive hlast hle =>
    obtain ⟨hh, next, hp, hnext, _⟩ := receive_of_ok hr hf hreceive
    rw [Bool.not_eq_true] at hlast
    rw [pendingBytes_eq, pendingBytes_eq] at hle
    exact ⟨hh, .inl ⟨next, Framing.seek_of_not_lt hp hlast hle, hnext⟩⟩

/-- A session that has skipped to a package has skipped to it in its stream. -/
theorem skipTo_of_ok {n : Nat} {last : α → Bool} {rule start rule' : Option (Framing α)}
    {c d : Session} (hr : Framing.Resumed rule c.buffer start) (hf : Framing.AllFit n start)
    (h : c.skipTo last rule = (.ok (), rule', d)) :
    c.Hears d ∧ ∃ next, Framing.seek last start c.stream = (.ok (), next, d.stream) ∧
      Framing.Resumed rule' d.buffer next ∧ Framing.AllFit n next := by
  obtain ⟨hh, ⟨next, hp, hnext⟩ | ⟨_, e, he⟩⟩ := skipTo_spec last hr hf
  · have hfits : Framing.AllFit n (Framing.seek last start c.stream).2.1 := hf.seek c.stream
    rw [hp] at hfits
    rw [h] at hh hp hnext
    exact ⟨hh, next, hp, hnext, hfits⟩
  · rw [h] at he
    cases he

end Session

end ProxyTunnel
