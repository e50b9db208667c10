/-
What a socket took, cut where it was flushed.

A frame is out when all its bytes were taken and a flush followed them. So the
events of a run are read in parts: one part for every flush, and the bytes that
were taken since the last one (`Event.parts`). Parts of two runs, one after the
other, join in the middle (`Event.parts_append`): what the first run left open
is continued by the first part of the second.

A run is compared by its journal before and after it, and `Journal.Gains` names
the events in between. Notices, fired tokens and waits are no events.
-/
import ProxyTunnel.Journal

set_option autoImplicit false

namespace ProxyTunnel

namespace Event

/-! ## Parts -/

/-- Adds one event to the parts before it. -/
def ship : List Bytes × Bytes → Event → List Bytes × Bytes
  | (ended, opened), wrote bytes => (ended, opened ++ bytes)
  | (ended, opened), flushed => (ended ++ [opened], [])
  | parts, _ => parts

/-- The bytes that flushes have ended, and the bytes taken since the last one. -/
def parts (events : List Event) : List Bytes × Bytes := events.foldl ship ([], [])

/-- The parts of two runs, one after the other. -/
def joinParts : List Bytes × Bytes → List Bytes × Bytes → List Bytes × Bytes
  | (ended, opened), ([], more) => (ended, opened ++ more)
  | (ended, opened), (first :: others, more) => (ended ++ (opened ++ first) :: others, more)

@[simp] theorem joinParts_nothing (p : List Bytes × Bytes) : joinParts p ([], []) = p := by
  simp [joinParts]

@[simp] theorem nothing_joinParts (p : List Bytes × Bytes) : joinParts ([], []) p = p := by
  rcases p with ⟨_ | ⟨first, others⟩, more⟩ <;> rfl

theorem ship_joinParts (p q : List Bytes × Bytes) (e : Event) :
    ship (joinParts p q) e = joinParts p (ship q e) := by
  rcases p with ⟨ended, opened⟩
  rcases q with ⟨_ | ⟨first, others⟩, more⟩
  · cases e <;> simp [ship, joinParts]
  · cases e <;> simp [ship, joinParts]

theorem foldl_ship_joinParts (p q : List Bytes × Bytes) (events : List Event) :
    events.foldl ship (joinParts p q) = joinParts p (events.foldl ship q) := by
  induction events generalizing q with
  | nil => rfl
  | cons e events ih => rw [List.foldl_cons, ship_joinParts, ih, List.foldl_cons]

/-- What a run leaves open is continued by the next one. -/
theorem parts_append (a b : List Event) : parts (a ++ b) = joinParts (parts a) (parts b) := by
  have h := foldl_ship_joinParts (a.foldl ship ([], [])) ([], []) b
  rw [joinParts_nothing] at h
  rw [parts, List.foldl_append, h]
  rfl

/-- Bytes taken without a flush go before the first part that follows. -/
theorem parts_append_of_open {a b : List Event} {sent : Bytes} (ha : parts a = ([], sent)) :
    parts (a ++ b) = joinParts ([], sent) (parts b) := by
  rw [parts_append, ha]

/-- Behind whole parts the parts of the next run begin anew. -/
theorem parts_append_of_whole {a b : List Event} {fs gs : List Bytes} {more : Bytes}
    (ha : parts a = (fs, [])) (hb : parts b = (gs, more)) : parts (a ++ b) = (fs ++ gs, more) := by
  rw [parts_append, ha, hb]
  cases gs <;> simp [joinParts]

/-- Parts hold the bytes taken, and nothing else. -/
theorem flatMap_writtenBy (events : List Event) :
    events.flatMap Journal.writtenBy = (parts events).1.flatten ++ (parts events).2 := by
  induction events with
  | nil => rfl
  | cons e events ih =>
    rw [List.flatMap_cons, ih, ← List.singleton_append, parts_append]
    rcases parts events with ⟨_ | ⟨first, others⟩, more⟩ <;>
      cases e <;> simp [parts, ship, joinParts, Journal.writtenBy]

/-! ## Kinds of events -/

/-- Events of the receiving side. -/
def isRead : Event → Bool
  | read _ | readFailed _ => true
  | _ => false

/-- Events that tell a sender that nobody listens any more. A write that takes
no byte is one of them. -/
def closesSink : Event → Bool
  | wrote bytes => bytes.isEmpty
  | writeFailed fault | flushFailed fault => fault.isClosed
  | _ => false

/-- What is received takes no part in what is sent. -/
theorem parts_of_isRead {events : List Event} (h : events.all isRead) : parts events = ([], []) := by
  induction events with
  | nil => rfl
  | cons e events ih =>
    rw [List.all_cons, Bool.and_eq_true] at h
    rw [← List.singleton_append, parts_append, ih h.2]
    cases e <;> first | rfl | cases h.1

theorem not_closesSink_of_isRead {events : List Event} (h : events.all isRead) :
    events.any closesSink = false := by
  rw [List.any_eq_false]
  intro e he
  have hr := List.all_eq_true.1 h e he
  cases e <;> first | exact Bool.false_ne_true | cases hr

end Event

/-! ## From one journal to a later one -/

namespace Journal

/-- The second journal goes on from the first, with these events. -/
def Gains (a b : Journal) (events : List Event) : Prop :=
  ∃ added, b = a ++ added ∧ added.events = events

theorem Gains.refl (a : Journal) : a.Gains a [] := ⟨[], by simp, rfl⟩

theorem Gains.trans {a b c : Journal} {xs ys : List Event} (h : a.Gains b xs) (h' : b.Gains c ys) :
    a.Gains c (xs ++ ys) := by
  obtain ⟨p, rfl, rfl⟩ := h
  obtain ⟨q, rfl, rfl⟩ := h'
  exact ⟨p ++ q, List.append_assoc _ _ _, events_append p q⟩

/-- One event more. -/
theorem Gains.event {a b : Journal} {xs : List Event} (h : a.Gains b xs) (e : Event) :
    a.Gains (b ++ [.event e]) (xs ++ [e]) :=
  h.trans ⟨[.event e], rfl, rfl⟩

/-- A notice is no event. -/
theorem Gains.notice {a b : Journal} {xs : List Event} (h : a.Gains b xs) (n : Notice) :
    a.Gains (b ++ [.notice n]) xs := by
  have hn : b.Gains (b ++ [.notice n]) [] := ⟨[.notice n], rfl, rfl⟩
  have h' := h.trans hn
  rwa [List.append_nil] at h'

theorem Gains.events_eq {a b : Journal} {xs : List Event} (h : a.Gains b xs) :
    b.events = a.events ++ xs := by
  obtain ⟨p, rfl, rfl⟩ := h
  exact events_append a p

theorem Gains.written_eq {a b : Journal} {xs : List Event} (h : a.Gains b xs) :
    b.written = a.written ++ xs.flatMap writtenBy := by
  rw [written, written, h.events_eq, List.flatMap_append]

end Journal

end ProxyTunnel
