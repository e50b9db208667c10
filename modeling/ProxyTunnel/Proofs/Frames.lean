/-
Framing does not depend on how a stream is cut into pieces.

What a rule makes of the bytes received so far stays as it is when more bytes
follow, unless it waits (`Framing.cut_append`). A line rule that resumes its
search finds what a search from the start finds (`Framing.cut_of_resumes`). So
packages depend on the stream alone, and a reference may cut them off the whole
of it. How many bytes a rule waits for at most is `Framing.Fits`.
-/
import ProxyTunnel.Framing

set_option autoImplicit false

namespace ProxyTunnel.Framing

/-! ## Searching for a terminator -/

theorem findTerminator_cons (b : UInt8) (bytes : Bytes) :
    findTerminator (b :: bytes) =
      if b = 13 ∧ bytes.head? = some 10 then some 0
      else (findTerminator bytes).map (· + 1) := by
  by_cases h : b = 13 ∧ bytes.head? = some 10
  · rw [if_pos h]
    obtain ⟨rfl, hh⟩ := h
    obtain ⟨rest, rfl⟩ := List.head?_eq_some_iff.1 hh
    rfl
  · rw [if_neg h, findTerminator]
    rintro rest rfl rfl
    exact h ⟨rfl, rfl⟩

/-- A terminator that is there stays where it is when more bytes follow. -/
theorem findTerminator_append {p : Bytes} {i : Nat} (h : findTerminator p = some i) (q : Bytes) :
    findTerminator (p ++ q) = some i := by
  induction p generalizing i with
  | nil => cases h
  | cons b p ih =>
    rw [findTerminator_cons] at h
    rw [List.cons_append, findTerminator_cons]
    by_cases hb : b = 13 ∧ p.head? = some 10
    · rw [if_pos hb] at h
      rw [if_pos ⟨hb.1, by rw [List.head?_append, hb.2]; rfl⟩]
      exact h
    · rw [if_neg hb] at h
      obtain ⟨j, hj, rfl⟩ := Option.map_eq_some_iff.1 h
      have hhead : (p ++ q).head? = p.head? := by
        rcases p with _ | ⟨a, p⟩
        · cases hj
        · rfl
      rw [hhead, if_neg hb, ih hj]
      rfl

/-- A terminator that more bytes complete begins with the last byte or later. -/
theorem length_le_of_findTerminator_append {p q : Bytes} {i : Nat} (hp : findTerminator p = none)
    (h : findTerminator (p ++ q) = some i) : p.length ≤ i + 1 := by
  induction p generalizing i with
  | nil => exact Nat.zero_le _
  | cons b p ih =>
    rw [findTerminator_cons] at hp
    rw [List.cons_append, findTerminator_cons] at h
    by_cases hb : b = 13 ∧ p.head? = some 10
    · rw [if_pos hb] at hp
      cases hp
    · rw [if_neg hb, Option.map_eq_none_iff] at hp
      by_cases hq : b = 13 ∧ (p ++ q).head? = some 10
      · -- the byte after this one is no longer among the first bytes
        rcases p with _ | ⟨a, p⟩
        · exact Nat.le_add_left _ _
        · exact absurd hq hb
      · rw [if_neg hq] at h
        obtain ⟨j, hj, rfl⟩ := Option.map_eq_some_iff.1 h
        exact Nat.succ_le_succ (ih hp hj)

/-- A terminator is a CR and an LF, with two bytes' room before the end. -/
theorem eq_of_findTerminator {bytes : Bytes} {i : Nat} (h : findTerminator bytes = some i) :
    bytes = bytes.take i ++ 13 :: 10 :: bytes.drop (i + 2) := by
  induction bytes generalizing i with
  | nil => cases h
  | cons b bytes ih =>
    rw [findTerminator_cons] at h
    by_cases hb : b = 13 ∧ bytes.head? = some 10
    · rw [if_pos hb] at h
      cases h
      obtain ⟨rfl, hh⟩ := hb
      obtain ⟨rest, rfl⟩ := List.head?_eq_some_iff.1 hh
      rfl
    · rw [if_neg hb] at h
      obtain ⟨j, hj, rfl⟩ := Option.map_eq_some_iff.1 h
      have hrest := ih hj
      rw [List.take_succ_cons, List.cons_append, List.drop_succ_cons, ← hrest]

/-- Whatever stands before a terminator, it takes two bytes. -/
theorem add_two_le_length {bytes : Bytes} {i : Nat}
    (h : bytes = bytes.take i ++ 13 :: 10 :: bytes.drop (i + 2)) : i + 2 ≤ bytes.length := by
  have hlength := congrArg List.length h
  simp only [List.length_append, List.length_take, List.length_cons, List.length_drop] at hlength
  omega

/-- Bytes that hold no terminator, not even one that ends in the next byte, put
the first terminator off by their number. -/
theorem findTerminator_append_of_none {p q : Bytes} (h : findTerminator (p ++ q.take 1) = none) :
    findTerminator (p ++ q) = (findTerminator q).map (p.length + ·) := by
  induction p with
  | nil =>
    rw [List.nil_append, List.length_nil]
    simp
  | cons b p ih =>
    rw [List.cons_append, findTerminator_cons] at h
    rw [List.cons_append, findTerminator_cons]
    have hhead : (p ++ q.take 1).head? = (p ++ q).head? := by
      rw [List.head?_append, List.head?_append, List.head?_take, if_neg (Nat.succ_ne_zero 0)]
    rw [hhead] at h
    by_cases hb : b = 13 ∧ (p ++ q).head? = some 10
    · rw [if_pos hb] at h
      cases h
    · rw [if_neg hb, Option.map_eq_none_iff] at h
      rw [if_neg hb, ih h, Option.map_map, List.length_cons]
      congr 1
      funext j
      exact Nat.add_right_comm p.length j 1

/-- A search that resumes finds what a search from the start finds. -/
theorem findTerminatorFrom_eq {searched : Nat} {buffer : Bytes} (hle : searched ≤ buffer.length)
    (h : findTerminator (buffer.take searched) = none) :
    findTerminatorFrom searched buffer = findTerminator buffer := by
  unfold findTerminatorFrom
  rcases searched with _ | k
  · simp
  · -- it resumes one byte early, for a CR may have been the last byte before
    have hmin : min (k + 1 - 1) buffer.length = k := by omega
    rw [hmin]
    have hsplit : buffer.take k ++ (buffer.drop k).take 1 = buffer.take (k + 1) :=
      (List.take_add ..).symm
    have hlen : (buffer.take k).length = k := by
      rw [List.length_take]
      omega
    have key := findTerminator_append_of_none (hsplit ▸ h)
    rw [List.take_append_drop, hlen] at key
    exact key.symm

theorem findTerminatorFrom_zero (buffer : Bytes) :
    findTerminatorFrom 0 buffer = findTerminator buffer :=
  findTerminatorFrom_eq (Nat.zero_le _) (by rw [List.take_zero]; rfl)

variable {α : Type}

/-! ## Rules that resume -/

/-- A rule as it starts. -/
def restart : Framing α → Framing α
  | line limit _ make => line limit 0 make
  | rule => rule

/-- The bytes that a line rule takes to be without a terminator are. -/
def Resumes : Framing α → Bytes → Prop
  | line _ searched _, buffer =>
    searched ≤ buffer.length ∧ findTerminator (buffer.take searched) = none
  | _, _ => True

theorem resumes_restart (rule : Framing α) (buffer : Bytes) : rule.restart.Resumes buffer := by
  cases rule with
  | line => exact ⟨Nat.zero_le _, by rw [List.take_zero]; rfl⟩
  | fixed | headed => trivial

theorem Resumes.append {rule : Framing α} {buffer : Bytes} (h : rule.Resumes buffer)
    (more : Bytes) : rule.Resumes (buffer ++ more) := by
  cases rule with
  | line limit searched make =>
    refine ⟨?_, ?_⟩
    · rw [List.length_append]
      exact Nat.le_trans h.1 (Nat.le_add_right _ _)
    · rw [List.take_append_of_le_length h.1]
      exact h.2
  | fixed | headed => trivial

/-- The answer of a rule that resumes is that of a rule that starts; while it
waits, it goes on in the same way. -/
theorem cut_of_resumes {rule : Framing α} {buffer : Bytes} (h : rule.Resumes buffer) :
    (rule.cut buffer).answer = (rule.restart.cut buffer).answer ∧
      (rule.cut buffer).rest = (rule.restart.cut buffer).rest ∧
      (rule.cut buffer).framing.restart = rule.restart ∧
      (rule.cut buffer).framing.Resumes (rule.cut buffer).rest := by
  cases rule with
  | line limit searched make =>
    simp only [cut, restart, cutLine, findTerminatorFrom_eq h.1 h.2, findTerminatorFrom_zero]
    rcases hf : findTerminator buffer with _ | position
    · dsimp only
      by_cases hlong : (limit + 1).toNat < buffer.length
      · rw [if_pos hlong, if_pos hlong]
        exact ⟨rfl, rfl, rfl, h⟩
      · rw [if_neg hlong, if_neg hlong]
        refine ⟨rfl, rfl, rfl, Nat.le_refl _, ?_⟩
        rw [List.take_length, hf]
    · dsimp only
      by_cases hlong : limit.toNat < position
      · rw [if_pos hlong, if_pos hlong]
        exact ⟨rfl, rfl, rfl, h⟩
      · rw [if_neg hlong, if_neg hlong]
        exact ⟨rfl, rfl, rfl, resumes_restart (line limit 0 make) _⟩
  -- the others remember nothing, and so go on as they are
  | fixed size decode =>
    have hsame : ((fixed size decode).cut buffer).framing = fixed size decode := by
      simp only [cut]
      obtain ⟨_, hcut⟩ | ⟨_, _, _, _, hcut⟩ :=
        cutFrame_cases (.fixed size decode) size decode buffer
      all_goals rw [hcut]
    rw [hsame]
    exact ⟨rfl, rfl, rfl, trivial⟩
  | headed header bodyLength decode =>
    have hsame : ((headed header bodyLength decode).cut buffer).framing =
        headed header bodyLength decode := by
      simp only [cut]
      obtain ⟨_, hcut⟩ | ⟨_, _, hcut⟩ | ⟨_, _, _, _, _, _, hcut⟩ :=
        cutHeaded_cases (.headed header bodyLength decode) header bodyLength decode buffer
      all_goals rw [hcut]
    rw [hsame]
    exact ⟨rfl, rfl, rfl, trivial⟩

/-! ## More bytes change nothing -/

/-- How many bytes a rule, and every rule after it, waits for at most. -/
inductive Fits (n : Nat) : Framing α → Prop
  | line {limit : UInt64} {make : String → α} (room : limit.toNat + 2 ≤ n)
      (size : limit.toNat + 1 < UInt64.size) : Fits n (.line limit 0 make)
  | fixed {size : UInt64} {decode : Bytes → Except WireError (α × Option (Framing α))}
      (room : size.toNat ≤ n)
      (next : ∀ frame content rule, decode frame = .ok (content, some rule) → Fits n rule) :
      Fits n (.fixed size decode)
  | headed {header : UInt64} {bodyLength : Bytes → Except WireError UInt64}
      {decode : Bytes → Except WireError (α × Option (Framing α))} (room : header.toNat ≤ n)
      (body : ∀ head size, bodyLength head = .ok size → (header + size).toNat ≤ n)
      (next : ∀ frame content rule, decode frame = .ok (content, some rule) → Fits n rule) :
      Fits n (.headed header bodyLength decode)

/-- A sum that is a machine word does not wrap. -/
theorem toNat_add_of_lt {a b : UInt64} (h : a.toNat + b.toNat < UInt64.size) :
    (a + b).toNat = a.toNat + b.toNat := by
  rw [UInt64.toNat_add]
  exact Nat.mod_eq_of_lt h

theorem toNat_limit_add_one {limit : UInt64} (h : limit.toNat + 1 < UInt64.size) :
    (limit + 1).toNat = limit.toNat + 1 :=
  toNat_add_of_lt h

theorem cutFrame_append {rule : Framing α} {size : UInt64}
    {decode : Bytes → Except WireError (α × Option (Framing α))} {buffer : Bytes}
    (h : (cutFrame rule size decode buffer).answer ≠ .waiting) (more : Bytes) :
    cutFrame rule size decode (buffer ++ more) =
      { cutFrame rule size decode buffer with
        rest := (cutFrame rule size decode buffer).rest ++ more } := by
  unfold cutFrame at h ⊢
  by_cases hshort : buffer.length < size.toNat
  · rw [if_pos hshort] at h
    exact absurd rfl h
  · have hlong : ¬ (buffer ++ more).length < size.toNat := by
      rw [List.length_append]
      omega
    rw [if_neg hshort, if_neg hlong, List.take_append_of_le_length (by omega),
      List.drop_append_of_le_length (by omega)]

theorem cutHeaded_append {rule : Framing α} {header : UInt64}
    {bodyLength : Bytes → Except WireError UInt64}
    {decode : Bytes → Except WireError (α × Option (Framing α))} {buffer : Bytes}
    (h : (cutHeaded rule header bodyLength decode buffer).answer ≠ .waiting) (more : Bytes) :
    cutHeaded rule header bodyLength decode (buffer ++ more) =
      { cutHeaded rule header bodyLength decode buffer with
        rest := (cutHeaded rule header bodyLength decode buffer).rest ++ more } := by
  unfold cutHeaded at h ⊢
  by_cases hshort : buffer.length < header.toNat
  · rw [if_pos hshort] at h
    exact absurd rfl h
  · have hlong : ¬ (buffer ++ more).length < header.toNat := by
      rw [List.length_append]
      omega
    rw [if_neg hshort] at h ⊢
    rw [if_neg hlong, List.take_append_of_le_length (by omega)]
    rcases hb : bodyLength (buffer.take header.toNat) with e | size
    · rfl
    · rw [hb] at h
      exact cutFrame_append h more

/-- A line that is there stays as it is when more bytes follow, whatever the limit. -/
theorem cutLine_append {limit : UInt64} {make : String → α} {buffer : Bytes} {position : Nat}
    (h : findTerminator buffer = some position) (more : Bytes) :
    cutLine limit 0 make (buffer ++ more) =
      { cutLine limit 0 make buffer with rest := (cutLine limit 0 make buffer).rest ++ more } := by
  unfold cutLine
  rw [findTerminatorFrom_zero, findTerminatorFrom_zero, findTerminator_append h, h]
  dsimp only
  by_cases hlong : limit.toNat < position
  · rw [if_pos hlong, if_pos hlong]
  · have hroom : position + 2 ≤ buffer.length := add_two_le_length (eq_of_findTerminator h)
    rw [if_neg hlong, if_neg hlong, List.take_append_of_le_length (by omega),
      List.drop_append_of_le_length hroom]

/-- **An answer stays as it is when more bytes follow**, unless the rule waits. -/
theorem cut_append {n : Nat} {rule : Framing α} (hf : rule.Fits n) {buffer : Bytes}
    (h : (rule.cut buffer).answer ≠ .waiting) (more : Bytes) :
    rule.cut (buffer ++ more) =
      { rule.cut buffer with rest := (rule.cut buffer).rest ++ more } := by
  cases hf with
  | @line limit make room size =>
    have hlimit := toNat_limit_add_one size
    simp only [cut] at h ⊢
    rcases hp : findTerminator buffer with _ | position
    · simp only [cutLine, findTerminatorFrom_zero, hp] at h ⊢
      by_cases hlong : (limit + 1).toNat < buffer.length
      · rw [if_pos hlong]
        rcases hq : findTerminator (buffer ++ more) with _ | position
        · -- too many bytes without a terminator remain too many
          have hlong' : (limit + 1).toNat < (buffer ++ more).length := by
            rw [List.length_append]
            omega
          dsimp only
          rw [if_pos hlong']
        · -- and one that comes now comes behind them
          have hpos := length_le_of_findTerminator_append hp hq
          dsimp only
          rw [if_pos (by omega)]
      · rw [if_neg hlong] at h
        exact absurd rfl h
    · exact cutLine_append hp more
  | fixed => exact cutFrame_append h more
  | headed => exact cutHeaded_append h more

/-- A rule that waits has not seen more bytes than it may need. -/
theorem length_lt_of_waiting {n : Nat} {rule : Framing α} (hf : rule.Fits n) {buffer : Bytes}
    (h : (rule.cut buffer).answer = .waiting) : buffer.length < n := by
  cases hf with
  | @line limit make room size =>
    have hlimit := toNat_limit_add_one size
    simp only [cut] at h
    obtain ⟨_, hshort, _⟩ | hcut | ⟨position, _, _, hcut⟩ := cutLine_cases limit 0 make buffer
    · omega
    · rw [hcut] at h
      cases h
    · rw [hcut] at h
      cases h
  | @fixed size decode room next =>
    simp only [cut] at h
    obtain ⟨hshort, _⟩ | ⟨frame, rest, _, _, hcut⟩ :=
      cutFrame_cases (.fixed size decode) size decode buffer
    · exact Nat.lt_of_lt_of_le hshort room
    · rw [hcut] at h
      exact absurd h (ofDecoded_ne_waiting _)
  | @headed header bodyLength decode room body next =>
    simp only [cut] at h
    obtain ⟨hshort | ⟨size, hbody, hshort⟩, _⟩ | ⟨e, _, hcut⟩ | ⟨size, frame, rest, _, _, _, hcut⟩ :=
      cutHeaded_cases (.headed header bodyLength decode) header bodyLength decode buffer
    · exact Nat.lt_of_lt_of_le hshort room
    · exact Nat.lt_of_lt_of_le hshort (body _ size hbody)
    · rw [hcut] at h
      cases h
    · rw [hcut] at h
      exact absurd h (ofDecoded_ne_waiting _)

/-- The rule after a package fits wherever the rule before it fits. -/
theorem Fits.next {n : Nat} {rule : Framing α} (hf : rule.Fits n) {buffer : Bytes} {content : α}
    {next : Framing α} (h : (rule.cut buffer).answer = .package content (some next)) :
    next.Fits n := by
  cases hf with
  | @line limit make room size =>
    -- a line names no rule to follow
    simp only [cut] at h
    obtain ⟨_, _, hcut⟩ | hcut | ⟨position, _, _, hcut⟩ := cutLine_cases limit 0 make buffer
    all_goals
      rw [hcut] at h
      cases h
  | @fixed size decode room next =>
    simp only [cut] at h
    obtain ⟨_, hcut⟩ | ⟨frame, rest, _, _, hcut⟩ :=
      cutFrame_cases (.fixed size decode) size decode buffer
    · rw [hcut] at h
      cases h
    · rw [hcut] at h
      exact next frame _ _ (ofDecoded_eq_package h)
  | @headed header bodyLength decode room body next =>
    simp only [cut] at h
    obtain ⟨_, hcut⟩ | ⟨e, _, hcut⟩ | ⟨size, frame, rest, _, _, _, hcut⟩ :=
      cutHeaded_cases (.headed header bodyLength decode) header bodyLength decode buffer
    · rw [hcut] at h
      cases h
    · rw [hcut] at h
      cases h
    · rw [hcut] at h
      exact next frame _ _ (ofDecoded_eq_package h)

end ProxyTunnel.Framing
