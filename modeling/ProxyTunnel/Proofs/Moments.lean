/-
Moments of a run.

The journal of a run only grows, so a moment of the run is a prefix of it, and
"at that moment this happened" means that the prefix goes on with that entry
(`Journal.Adds`). What happens between two moments happens before or after any
moment in between (`Journal.Adds.split`); this is how a statement about a run is
taken apart along the steps of its dialogue.

A dialogue comes to its steps one after the other (`Dialogue.Reaches`), each in
the session that the steps before it left. Every byte that a run writes belongs
to a send that the dialogue comes to (`Dialogue.wrote_run`).
-/
import ProxyTunnel.Proofs.Settlement
import ProxyTunnel.Proofs.Sides

set_option autoImplicit false

namespace ProxyTunnel

open Event

/-! ## Moments -/

namespace Journal

/-- Between two journals this entry was added, right after these. -/
def Adds (a b xs : Journal) (entry : Entry) : Prop := a <+: xs ∧ xs ++ [entry] <+: b

variable {a b c xs : Journal} {entry : Entry}

/-- Whatever happened, happened before or after a moment in between. -/
theorem Adds.split (h : a.Adds c xs entry) (hb : b <+: c) :
    a.Adds b xs entry ∨ b.Adds c xs entry := by
  rcases List.prefix_or_prefix_of_prefix h.2 hb with hle | hle
  · exact .inl ⟨h.1, hle⟩
  · rcases List.prefix_concat_iff.1 hle with rfl | hlt
    · exact .inl ⟨h.1, List.prefix_refl _⟩
    · exact .inr ⟨hlt, h.2⟩

theorem not_adds_self (a xs : Journal) (entry : Entry) : ¬ a.Adds a xs entry := by
  rintro ⟨hle, hlt⟩
  have hlength := hle.length_le
  have hlength' := hlt.length_le
  rw [List.length_append, List.length_singleton] at hlength'
  omega

/-- Where only one entry was added, it is that one. -/
theorem Adds.single {one : Entry} (h : a.Adds (a ++ [one]) xs entry) : xs = a ∧ entry = one := by
  obtain ⟨before, rfl⟩ := h.1
  have hlength := h.2.length_le
  simp only [List.length_append, List.length_singleton] at hlength
  obtain rfl : before = [] := List.eq_nil_of_length_eq_zero (by omega)
  have hsame := h.2
  rw [List.append_nil, List.prefix_append_right_inj] at hsame
  exact ⟨List.append_nil a, (List.cons_prefix_cons.1 hsame).1⟩

/-- What is added lies between the two journals. -/
theorem Adds.mem {added : Journal} (h : a.Adds (a ++ added) xs entry) : entry ∈ added := by
  obtain ⟨⟨before, rfl⟩, after, heq⟩ := h
  rw [List.append_assoc, List.append_assoc, List.append_cancel_left_eq] at heq
  rw [← heq]
  exact List.mem_append_right _ List.mem_cons_self

theorem Adds.event_mem {e : Event} {events : List Event} (h : a.Adds b xs (.event e))
    (hg : a.Gains b events) : e ∈ events := by
  obtain ⟨added, rfl, rfl⟩ := hg
  exact List.mem_filterMap.2 ⟨_, h.mem, rfl⟩

theorem Adds.kind {e : Event} {kind : Event → Bool} (h : a.Adds b xs (.event e))
    (hg : a.GainsOnly kind b) : kind e = true := by
  obtain ⟨events, hg, hall⟩ := hg
  exact List.all_eq_true.1 hall e (h.event_mem hg)

end Journal

/-! ## Sessions that listen -/

namespace Session

/-- From a session to a later one that has only read in between. -/
structure Listens (c d : Session) : Prop where
  reads : c.journal.GainsOnly isRead d.journal
  disposed : d.disposed = c.disposed
  supervised : d.supervised = c.supervised
  token : d.token = c.token

variable {c d e : Session}

theorem Listens.refl (c : Session) : c.Listens c := ⟨.refl _ _, rfl, rfl, rfl⟩

theorem Listens.trans (h : c.Listens d) (h' : d.Listens e) : c.Listens e :=
  ⟨h.reads.trans h'.reads, h'.disposed.trans h.disposed, h'.supervised.trans h.supervised,
    h'.token.trans h.token⟩

/-- Who listens writes nothing. -/
theorem Listens.not_adds_wrote (h : c.Listens d) (xs : Journal) (bytes : Bytes) :
    ¬ c.journal.Adds d.journal xs (.event (.wrote bytes)) := by
  intro hadds
  cases hadds.kind h.reads

theorem reads_fetch (c : Session) : c.journal.GainsOnly isRead c.fetch.2.socket.journal := by
  obtain ⟨_, hh, _⟩ := heard_fetch c
  exact hh.events

variable {α : Type}

theorem listens_next (rule : Option (Framing α)) (c : Session) : c.Listens (c.next rule).2.2 := by
  fun_induction next rule c with
  | case1 c => exact .refl c
  | case2 c _ _ _ _ rest => exact ⟨.refl _ _, rfl, rfl, rfl⟩
  | case3 c _ _ _ rest => exact ⟨.refl _ _, rfl, rfl, rfl⟩
  | case4 c => exact .refl c
  | case5 c => exact .refl c
  | case6 c _ _ _ _ _ _ _ tunnel h =>
    have hreads := reads_fetch c
    rw [h] at hreads
    exact ⟨hreads, rfl, rfl, rfl⟩
  | case7 c _ _ _ _ _ _ tunnel h =>
    have hreads := reads_fetch c
    rw [h] at hreads
    exact ⟨hreads, rfl, rfl, rfl⟩
  | case8 c _ _ _ _ _ _ bytes tunnel h _ ih =>
    have hreads := reads_fetch c
    rw [h] at hreads
    have hone : c.Listens { c with tunnel, buffer := c.buffer ++ bytes } := ⟨hreads, rfl, rfl, rfl⟩
    exact hone.trans ih

theorem listens_receive (rule : Option (Framing α)) (c : Session) :
    c.Listens (c.receive rule).2.2 := by
  rw [receive_eq]
  exact listens_next rule c

theorem listens_skipTo (last : α → Bool) (rule : Option (Framing α)) (c : Session) :
    c.Listens (c.skipTo last rule).2.2 := by
  fun_induction skipTo last rule c with
  | case1 rule c e rule' c' h => simpa only [h] using listens_receive rule c
  | case2 rule c content rule' c' h _ => simpa only [h] using listens_receive rule c
  | case3 rule c content rule' c' h _ _ ih =>
    have hone := listens_receive rule c
    rw [h] at hone
    exact hone.trans ih
  | case4 rule c content rule' c' h _ _ => simpa only [h] using listens_receive rule c

end Session

/-! ## The steps of a dialogue -/

namespace Dialogue

variable {α : Type}

/-- A run of a dialogue comes to a later part of it, in a session and with the
rule for what is received next. -/
inductive Reaches : Dialogue α → Option (Framing α) → Session →
    Dialogue α → Option (Framing α) → Session → Prop
  | here {d : Dialogue α} {rule : Option (Framing α)} {c : Session} : Reaches d rule c d rule c
  | note {n : Notice} {d d' : Dialogue α} {rule rule' : Option (Framing α)} {c c' : Session}
      (rest : Reaches d rule (c.note n) d' rule' c') : Reaches (.note n d) rule c d' rule' c'
  | send {frame : Except WireError Bytes} {d d' : Dialogue α} {rule rule' : Option (Framing α)}
      {c c₁ c' : Session} (sent : c.send frame = (.ok (), c₁))
      (rest : Reaches d rule c₁ d' rule' c') : Reaches (.send frame d) rule c d' rule' c'
  | receive {next : α → Dialogue α} {d' : Dialogue α} {rule rule₁ rule' : Option (Framing α)}
      {c c₁ c' : Session} {content : α} (received : c.receive rule = (.ok content, rule₁, c₁))
      (rest : Reaches (next content) rule₁ c₁ d' rule' c') :
      Reaches (.receive next) rule c d' rule' c'
  | skipTo {last : α → Bool} {d d' : Dialogue α} {rule rule₁ rule' : Option (Framing α)}
      {c c₁ c' : Session} (skipped : c.skipTo last rule = (.ok (), rule₁, c₁))
      (rest : Reaches d rule₁ c₁ d' rule' c') : Reaches (.skipTo last d) rule c d' rule' c'

section

variable {d d' : Dialogue α} {rule rule' : Option (Framing α)} {c c' : Session}

/-- A run goes on from wherever it comes to. -/
theorem Reaches.run_eq (h : Reaches d rule c d' rule' c') : d.run rule c = d'.run rule' c' := by
  induction h with
  | here => rfl
  | note _ ih => exact ih
  | send sent _ ih =>
    rw [run, sent]
    exact ih
  | receive received _ ih =>
    rw [run, received]
    exact ih
  | skipTo skipped _ ih =>
    rw [run, skipped]
    exact ih

end

/-- A run comes to the send of this frame in this session. -/
def ComesToSend (d : Dialogue α) (rule : Option (Framing α)) (c : Session)
    (frame : Except WireError Bytes) (start : Session) : Prop :=
  ∃ next rule', Reaches d rule c (.send frame next) rule' start

/-- **Every byte that a run writes belongs to a frame** that its dialogue came to
send, and was written after that. -/
theorem wrote_run (d : Dialogue α) {rule : Option (Framing α)} {c : Session} {xs : Journal}
    {bytes : Bytes} (h : c.journal.Adds (d.run rule c).2.journal xs (.event (.wrote bytes))) :
    ∃ frame start, d.ComesToSend rule c frame start ∧
      start.journal.Adds (start.send frame).2.journal xs (.event (.wrote bytes)) := by
  -- by induction on the dialogue: the byte is this step's, or the rest of the run's
  induction d generalizing rule c with
  | finish result => exact absurd h (Journal.not_adds_self _ _ _)
  | note n d ih =>
    rcases h.split (b := (c.note n).journal) (follows_run d rule (c.note n)).1 with hone | hrest
    · cases List.mem_singleton.1 hone.mem
    · obtain ⟨frame, start, ⟨next, rule', hreach⟩, hadds⟩ := ih hrest
      exact ⟨frame, start, ⟨next, rule', .note hreach⟩, hadds⟩
  | send frame d ih =>
    have hhere : ∀ {result c₁}, c.send frame = (result, c₁) →
        c.journal.Adds c₁.journal xs (.event (.wrote bytes)) → ∃ f start,
          (Dialogue.send frame d).ComesToSend rule c f start ∧
            start.journal.Adds (start.send f).2.journal xs (.event (.wrote bytes)) := by
      intro result c₁ hsend hadds
      refine ⟨frame, c, ⟨d, rule, .here⟩, ?_⟩
      rw [hsend]
      exact hadds
    unfold run at h
    rcases hsend : c.send frame with ⟨e | ⟨⟩, c₁⟩
    all_goals rw [hsend] at h
    · exact hhere hsend h
    · rcases h.split (b := c₁.journal) (follows_run d rule c₁).1 with hone | hrest
      · exact hhere hsend hone
      · obtain ⟨f, start, ⟨next, rule', hreach⟩, hadds⟩ := ih hrest
        exact ⟨f, start, ⟨next, rule', .send hsend hreach⟩, hadds⟩
  | receive next ih =>
    have hl := Session.listens_receive rule c
    unfold run at h
    rcases hreceive : c.receive rule with ⟨e | content, rule₁, c₁⟩
    all_goals rw [hreceive] at h hl
    · exact absurd h (hl.not_adds_wrote xs bytes)
    · rcases h.split (b := c₁.journal) (follows_run (next content) rule₁ c₁).1 with hone | hrest
      · exact absurd hone (hl.not_adds_wrote xs bytes)
      · obtain ⟨f, start, ⟨d', rule', hreach⟩, hadds⟩ := ih content hrest
        exact ⟨f, start, ⟨d', rule', .receive hreceive hreach⟩, hadds⟩
  | skipTo last d ih =>
    have hl := Session.listens_skipTo last rule c
    unfold run at h
    rcases hskip : c.skipTo last rule with ⟨e | ⟨⟩, rule₁, c₁⟩
    all_goals rw [hskip] at h hl
    · exact absurd h (hl.not_adds_wrote xs bytes)
    · rcases h.split (b := c₁.journal) (follows_run d rule₁ c₁).1 with hone | hrest
      · exact absurd hone (hl.not_adds_wrote xs bytes)
      · obtain ⟨f, start, ⟨d', rule', hreach⟩, hadds⟩ := ih hrest
        exact ⟨f, start, ⟨d', rule', .skipTo hskip hreach⟩, hadds⟩

end Dialogue

end ProxyTunnel
