/-
Lines cut off a buffer that grows.

A line rule remembers how far it searched in vain and resumes one byte before.
What it remembers is worth nothing to whoever asks it: its answers are those of a
rule that starts on the same buffer. Two facts carry that through a run. The
bytes it skips hold no terminator (`Framing.Resumes`), and a first line that is
longer than the limit stays so whatever arrives behind it
(`Framing.Overlong.append`).

So a run of arrivals and polls, in any order, delivers the lines of the whole
stream, each one as it was written and no other, up to the first that is too
long (`Framing.lines_resume`).
-/
import ProxyTunnel.Proofs.RequestHead

set_option autoImplicit false

namespace ProxyTunnel

open Http (rawLines lineEnd Unended)

namespace Framing

variable {α : Type}

/-! ## A rule at work -/

/-- The package of an answer. -/
def Answer.content? : Answer α → Option α
  | .package content _ => some content
  | _ => none

/-- A rule at work: the bytes that arrived and were not cut off, and its answers
so far. -/
structure Reader (α : Type) where
  rule : Framing α
  buffer : Bytes
  answers : List (Answer α)

namespace Reader

/-- What happens to a rule at work. -/
inductive Act where
  | arrive (bytes : Bytes)
  | poll

/-- All bytes that arrive, in order. -/
def arrived : List Act → Bytes
  | [] => []
  | .arrive bytes :: acts => bytes ++ arrived acts
  | .poll :: acts => arrived acts

/-- What the next poll comes to. -/
def next (r : Reader α) : Cut α := r.rule.cut r.buffer

/-- The rule after one act. Only a poll removes bytes. -/
def act (r : Reader α) : Act → Reader α
  | .arrive bytes => { r with buffer := r.buffer ++ bytes }
  | .poll => ⟨r.next.framing, r.next.rest, r.answers ++ [r.next.answer]⟩

/-- The rule after acts. -/
def run (r : Reader α) (acts : List Act) : Reader α := acts.foldl act r

/-- The packages among the answers. -/
def contents (r : Reader α) : List α := r.answers.filterMap Answer.content?

theorem run_append (r : Reader α) (acts more : List Act) :
    r.run (acts ++ more) = (r.run acts).run more := List.foldl_append

@[simp] theorem contents_poll (r : Reader α) :
    (r.act .poll).contents = r.contents ++ r.next.answer.content?.toList := by
  simp only [contents, act, List.filterMap_append]
  cases h : r.next.answer.content? <;> simp [h]

end Reader

/-! ## One poll of a line rule -/

/-- The first line of a buffer is longer than the limit, wherever it may end. -/
def Overlong (limit : Nat) (buffer : Bytes) : Prop :=
  match findTerminator buffer with
  | some position => limit < position
  | none => limit + 1 < buffer.length

/-- It stays so, whatever arrives. -/
theorem Overlong.append {limit : Nat} {buffer : Bytes} (h : Overlong limit buffer) (more : Bytes) :
    Overlong limit (buffer ++ more) := by
  unfold Overlong at h ⊢
  rcases hfound : findTerminator buffer with _ | position
  · rw [hfound] at h
    rcases hlater : findTerminator (buffer ++ more) with _ | position
    · dsimp only at h ⊢
      rw [List.length_append]
      omega
    · -- a terminator that comes only now ends behind the bytes that were there
      have hbehind := length_le_of_findTerminator_append hfound hlater
      dsimp only at h ⊢
      omega
  · rw [hfound] at h
    rw [findTerminator_append hfound]
    exact h

variable {limit : UInt64} {make : String → α} {stream buffer : Bytes} {r : Reader α}

/-- A new line rule waits, finds that the line is too long, or cuts it off with
its terminator. -/
theorem cut_lines_cases (hlimit : limit.toNat + 1 < UInt64.size) :
    (findTerminator buffer = none ∧ buffer.length ≤ limit.toNat + 1 ∧
      ((lines limit make).cut buffer).answer = .waiting ∧
      ((lines limit make).cut buffer).rest = buffer) ∨
    (Overlong limit.toNat buffer ∧
      ((lines limit make).cut buffer).answer = .refused (.lineTooLong limit.toNat) ∧
      ((lines limit make).cut buffer).rest = buffer) ∨
    ∃ text rest, Unended text ∧ text.length ≤ limit.toNat ∧ buffer = text ++ 13 :: 10 :: rest ∧
      ((lines limit make).cut buffer).answer = .package (make (Utf8.decodeLossy text)) none ∧
      ((lines limit make).cut buffer).rest = rest := by
  simp only [lines, cut, cutLine, findTerminatorFrom_zero, toNat_limit_add_one hlimit, Overlong]
  rcases hfound : findTerminator buffer with _ | position
  · dsimp only
    by_cases hlong : limit.toNat + 1 < buffer.length
    · rw [if_pos hlong]
      exact .inr (.inl ⟨hlong, rfl, rfl⟩)
    · rw [if_neg hlong]
      exact .inl ⟨rfl, Nat.le_of_not_lt hlong, rfl, rfl⟩
  · dsimp only
    obtain ⟨hunended, hlength, hbuffer⟩ := Http.unended_of_findTerminator hfound
    by_cases hlong : limit.toNat < position
    · rw [if_pos hlong]
      exact .inr (.inl ⟨hlong, rfl, rfl⟩)
    · rw [if_neg hlong]
      refine .inr (.inr ⟨_, _, hunended, ?_, hbuffer, rfl, rfl⟩)
      rw [hlength]
      exact Nat.le_of_not_lt hlong

/-- A line that nothing ends early ends where its terminator stands. -/
theorem findTerminator_line {text : Bytes} (h : Unended text) (rest : Bytes) :
    findTerminator (text ++ 13 :: 10 :: rest) = some text.length :=
  findTerminator_append_of_none (q := 13 :: 10 :: rest) h

/-! ## A run of a line rule -/

/-- A line rule in the middle of a stream. It has delivered the first lines, none
of them too long; what is behind them is in its buffer, and the bytes that it
will skip there hold no terminator. -/
structure Reads (limit : UInt64) (make : String → α) (stream : Bytes) (r : Reader α) : Prop where
  rule : r.rule.restart = lines limit make
  resumes : r.rule.Resumes r.buffer
  delivered : ∃ texts : List Bytes, (∀ text ∈ texts, Unended text ∧ text.length ≤ limit.toNat) ∧
    r.contents = texts.map (make ∘ Utf8.decodeLossy) ∧
    stream = texts.flatMap (· ++ lineEnd) ++ r.buffer

/-- **The answer of a rule that resumes is that of a new rule**, and so is what
it leaves. -/
theorem Reads.next_eq (h : Reads limit make stream r) :
    r.next.answer = ((lines limit make).cut r.buffer).answer ∧
      r.next.rest = ((lines limit make).cut r.buffer).rest := by
  obtain ⟨hanswer, hrest, _, _⟩ := cut_of_resumes h.resumes
  rw [h.rule] at hanswer hrest
  exact ⟨hanswer, hrest⟩

/-- So it waits, refuses or delivers as a new rule does. -/
theorem Reads.next_cases (hlimit : limit.toNat + 1 < UInt64.size) (h : Reads limit make stream r) :
    (findTerminator r.buffer = none ∧ r.buffer.length ≤ limit.toNat + 1 ∧
      r.next.answer = .waiting ∧ r.next.rest = r.buffer) ∨
    (Overlong limit.toNat r.buffer ∧
      r.next.answer = .refused (.lineTooLong limit.toNat) ∧ r.next.rest = r.buffer) ∨
    ∃ text rest, Unended text ∧ text.length ≤ limit.toNat ∧ r.buffer = text ++ 13 :: 10 :: rest ∧
      r.next.answer = .package (make (Utf8.decodeLossy text)) none ∧ r.next.rest = rest := by
  rw [h.next_eq.1, h.next_eq.2]
  exact cut_lines_cases hlimit

/-- A run begins with a new rule, whatever is in the buffer by then. -/
theorem reads_lines (limit : UInt64) (make : String → α) (buffer : Bytes) :
    Reads limit make buffer ⟨lines limit make, buffer, []⟩ where
  rule := rfl
  resumes := resumes_restart (lines limit make) buffer
  delivered := ⟨[], nofun, rfl, rfl⟩

theorem Reads.arrive (h : Reads limit make stream r) (bytes : Bytes) :
    Reads limit make (stream ++ bytes) (r.act (.arrive bytes)) where
  rule := h.rule
  resumes := h.resumes.append bytes
  delivered := by
    obtain ⟨texts, hfit, hcontents, hstream⟩ := h.delivered
    refine ⟨texts, hfit, hcontents, ?_⟩
    rw [hstream, List.append_assoc]
    rfl

theorem Reads.poll (hlimit : limit.toNat + 1 < UInt64.size) (h : Reads limit make stream r) :
    Reads limit make stream (r.act .poll) where
  rule := by
    obtain ⟨_, _, hrestart, _⟩ := cut_of_resumes h.resumes
    exact hrestart.trans h.rule
  resumes := by
    obtain ⟨_, _, _, hresumes⟩ := cut_of_resumes h.resumes
    exact hresumes
  delivered := by
    obtain ⟨texts, hfit, hcontents, hstream⟩ := h.delivered
    rw [Reader.contents_poll, hcontents]
    change ∃ texts : List Bytes, _ ∧ _ ∧ stream = _ ++ r.next.rest
    obtain ⟨_, _, hwaits, hleaves⟩ | ⟨_, hrefuses, hleaves⟩ |
      ⟨text, rest, hunended, hle, hbuffer, hpackage, hleaves⟩ := h.next_cases hlimit
    · rw [hwaits, hleaves]
      exact ⟨texts, hfit, List.append_nil _, hstream⟩
    · rw [hrefuses, hleaves]
      exact ⟨texts, hfit, List.append_nil _, hstream⟩
    · -- one more line is delivered, and gone from the front of the buffer
      rw [hpackage, hleaves]
      refine ⟨texts ++ [text], ?_, ?_, ?_⟩
      · intro t ht
        obtain ht | ht := List.mem_append.1 ht
        · exact hfit t ht
        · rw [List.mem_singleton.1 ht]
          exact ⟨hunended, hle⟩
      · rw [List.map_append]
        rfl
      · rw [hstream, hbuffer]
        simp [lineEnd]

theorem Reads.run (hlimit : limit.toNat + 1 < UInt64.size) (h : Reads limit make stream r)
    (acts : List Reader.Act) : Reads limit make (stream ++ Reader.arrived acts) (r.run acts) := by
  induction acts generalizing stream r with
  | nil => simpa [Reader.arrived, Reader.run] using h
  | cons a acts ih =>
    cases a with
    | arrive bytes =>
      have hrest := ih (h.arrive bytes)
      rwa [List.append_assoc] at hrest
    | poll => exact ih (h.poll hlimit)

/-! ## What is refused, and what is delivered -/

theorem not_overlong_line {limit : Nat} {text : Bytes} (h : Unended text) (hle : text.length ≤ limit)
    (rest : Bytes) : ¬ Overlong limit (text ++ 13 :: 10 :: rest) := by
  rw [Overlong, findTerminator_line h]
  exact Nat.not_lt_of_le hle

/-- A poll refuses exactly if the first line is too long, and names the limit. -/
theorem Reads.refused_iff (hlimit : limit.toNat + 1 < UInt64.size)
    (h : Reads limit make stream r) (e : WireError) :
    r.next.answer = .refused e ↔ e = .lineTooLong limit.toNat ∧ Overlong limit.toNat r.buffer := by
  obtain ⟨hnone, hshort, hwaits, _⟩ | ⟨hlong, hrefuses, _⟩ |
    ⟨text, rest, hunended, hle, hbuffer, hpackage, _⟩ := h.next_cases hlimit
  · have hfits : ¬ Overlong limit.toNat r.buffer := by
      rw [Overlong, hnone]
      exact Nat.not_lt_of_le hshort
    rw [hwaits]
    exact iff_of_false nofun fun h => hfits h.2
  · rw [hrefuses]
    constructor
    · rintro ⟨⟩
      exact ⟨rfl, hlong⟩
    · rintro ⟨rfl, _⟩
      rfl
  · rw [hpackage, hbuffer]
    exact iff_of_false nofun fun h => not_overlong_line hunended hle rest h.2

/-- It waits exactly if no terminator is there and the next byte may complete one. -/
theorem Reads.waits_iff (hlimit : limit.toNat + 1 < UInt64.size) (h : Reads limit make stream r) :
    r.next.answer = .waiting ↔
      findTerminator r.buffer = none ∧ r.buffer.length ≤ limit.toNat + 1 := by
  obtain ⟨hnone, hshort, hwaits, _⟩ | ⟨hlong, hrefuses, _⟩ |
    ⟨text, rest, hunended, hle, hbuffer, hpackage, _⟩ := h.next_cases hlimit
  · exact iff_of_true hwaits ⟨hnone, hshort⟩
  · rw [hrefuses]
    refine iff_of_false nofun ?_
    rintro ⟨hnone, hshort⟩
    rw [Overlong, hnone] at hlong
    exact absurd hshort (Nat.not_le_of_lt hlong)
  · rw [hpackage, hbuffer, findTerminator_line hunended]
    exact iff_of_false nofun nofun

/-- A poll that delivers nothing removes nothing. -/
theorem Reads.rest_eq (hlimit : limit.toNat + 1 < UInt64.size) (h : Reads limit make stream r)
    (hnone : r.next.answer.content? = none) : r.next.rest = r.buffer := by
  obtain ⟨_, _, _, hleaves⟩ | ⟨_, _, hleaves⟩ | ⟨_, _, _, _, _, hpackage, _⟩ :=
    h.next_cases hlimit
  · exact hleaves
  · exact hleaves
  · rw [hpackage] at hnone
    cases hnone

/-- Once the first line is too long, it stays in front of whatever arrives. -/
theorem Reads.run_of_overlong (hlimit : limit.toNat + 1 < UInt64.size)
    (h : Reads limit make stream r) (hlong : Overlong limit.toNat r.buffer)
    (acts : List Reader.Act) :
    (r.run acts).buffer = r.buffer ++ Reader.arrived acts ∧
      Overlong limit.toNat (r.run acts).buffer := by
  induction acts generalizing stream r with
  | nil => exact ⟨(List.append_nil _).symm, hlong⟩
  | cons a acts ih =>
    cases a with
    | arrive bytes =>
      obtain ⟨hbuffer, hstill⟩ := ih (h.arrive bytes) (hlong.append bytes)
      exact ⟨hbuffer.trans (List.append_assoc ..), hstill⟩
    | poll =>
      have hsame : (r.act .poll).buffer = r.buffer := by
        refine h.rest_eq hlimit ?_
        rw [(h.refused_iff hlimit _).2 ⟨rfl, hlong⟩]
        rfl
      obtain ⟨hbuffer, hstill⟩ := ih (h.poll hlimit) (hsame ▸ hlong)
      rw [hsame] at hbuffer
      exact ⟨hbuffer, hstill⟩

/-- A stream without a terminator has no line. -/
theorem rawLines_eq_nil {bytes : Bytes} (h : findTerminator bytes = none) : rawLines bytes = [] := by
  induction bytes with
  | nil => rfl
  | cons b bytes ih =>
    obtain ⟨hb, hrest⟩ := findTerminator_cons_eq_none.1 h
    rw [Http.rawLines_cons, if_neg hb, ih hrest]

/-- The lines of a stream before the first that is longer than the limit. -/
def linesWithin (limit : Nat) (stream : Bytes) : List Bytes :=
  (rawLines stream).takeWhile (·.length ≤ limit)

theorem linesWithin_of_overlong {limit : Nat} (h : Overlong limit buffer) :
    linesWithin limit buffer = [] := by
  unfold Overlong at h
  rcases hfound : findTerminator buffer with _ | position
  · rw [linesWithin, rawLines_eq_nil hfound, List.takeWhile_nil]
  · rw [hfound] at h
    obtain ⟨hunended, hlength, hbuffer⟩ := Http.unended_of_findTerminator hfound
    rw [linesWithin, hbuffer, Http.rawLines_line hunended, List.takeWhile_cons_of_neg]
    simpa [hlength] using h

theorem linesWithin_block {limit : Nat} {texts : List Bytes}
    (h : ∀ text ∈ texts, Unended text ∧ text.length ≤ limit) (rest : Bytes) :
    linesWithin limit (texts.flatMap (· ++ lineEnd) ++ rest) = texts ++ linesWithin limit rest := by
  rw [linesWithin, Http.rawLines_block fun text ht => (h text ht).1,
    List.takeWhile_append_of_pos fun text ht => by simpa using (h text ht).2]
  rfl

/-- Polls deliver the lines that are there, one each, up to one that is too long. -/
theorem Reads.contents_polls (hlimit : limit.toNat + 1 < UInt64.size)
    (h : Reads limit make stream r) (n : Nat) :
    (r.run (List.replicate n .poll)).contents =
      r.contents ++ ((linesWithin limit.toNat r.buffer).take n).map (make ∘ Utf8.decodeLossy) := by
  induction n generalizing r with
  | zero => simp [Reader.run]
  | succ n ih =>
    change ((r.act .poll).run (List.replicate n .poll)).contents = _
    have hpolls := ih (h.poll hlimit)
    rw [Reader.contents_poll] at hpolls
    change _ = _ ++ _ ++ ((linesWithin limit.toNat r.next.rest).take n).map _ at hpolls
    rw [hpolls]
    obtain ⟨hnone, _, hwaits, hleaves⟩ | ⟨hlong, hrefuses, hleaves⟩ |
      ⟨text, rest, hunended, hle, hbuffer, hpackage, hleaves⟩ := h.next_cases hlimit
    · rw [hwaits, hleaves, linesWithin, rawLines_eq_nil hnone]
      simp [Answer.content?]
    · rw [hrefuses, hleaves, linesWithin_of_overlong hlong]
      simp [Answer.content?]
    · have hline : linesWithin limit.toNat r.buffer = text :: linesWithin limit.toNat rest := by
        have hfit : ∀ t ∈ [text], Unended t ∧ t.length ≤ limit.toNat := by
          simpa using ⟨hunended, hle⟩
        simpa [hbuffer, lineEnd] using linesWithin_block hfit rest
      rw [hpackage, hleaves, hline]
      simp [Answer.content?]

/-- **A resuming search is a search from the start.** Take a line rule whose limit
leaves room for a terminator among the numbers, any bytes that it finds in its
buffer, and arrivals and polls in any order. Then, at every moment of that run,

* the packages so far are the texts of the first lines of the whole stream, one
  each and in order; these lines and their terminators are gone, the bytes behind
  them are the buffer, and no line longer than the limit is among them;
* polls without further arrivals deliver the lines that are there, one each, up
  to the first that is too long, wherever the arrivals split their terminators;
* the next poll waits exactly if the buffer holds no terminator and at most one
  byte more than the limit;
* it refuses exactly if the first terminator stands behind the limit, or there is
  none and the buffer is longer than that;
* if it delivers nothing it removes nothing, and once it refuses, it does so for
  ever, whatever arrives;
* its answer, and what it leaves, are those of a new rule. -/
theorem lines_resume (limit : UInt64) (hlimit : limit.toNat + 2 < UInt64.size)
    (make : String → α) (initial : Bytes) (acts : List Reader.Act) :
    let r := Reader.run ⟨lines limit make, initial, []⟩ acts
    let stream := initial ++ Reader.arrived acts
    let delivered := (rawLines stream).take r.contents.length
    (r.contents = delivered.map (make ∘ Utf8.decodeLossy) ∧
      stream = delivered.flatMap (· ++ lineEnd) ++ r.buffer ∧
      ∀ text ∈ delivered, text.length ≤ limit.toNat) ∧
    (∀ n, (r.run (List.replicate n .poll)).contents =
      ((linesWithin limit.toNat stream).take (r.contents.length + n)).map
        (make ∘ Utf8.decodeLossy)) ∧
    (r.next.answer = .waiting ↔
      findTerminator r.buffer = none ∧ r.buffer.length ≤ limit.toNat + 1) ∧
    (∀ e, r.next.answer = .refused e ↔
      e = .lineTooLong limit.toNat ∧ Overlong limit.toNat r.buffer) ∧
    (r.next.answer.content? = none → r.next.rest = r.buffer) ∧
    (Overlong limit.toNat r.buffer → ∀ later,
      (r.run later).next.answer = .refused (.lineTooLong limit.toNat) ∧
        (r.run later).buffer = r.buffer ++ Reader.arrived later) ∧
    r.next.answer = ((lines limit make).cut r.buffer).answer ∧
    r.next.rest = ((lines limit make).cut r.buffer).rest := by
  intro r stream delivered
  have hroom : limit.toNat + 1 < UInt64.size := by omega
  have h : Reads limit make stream r := (reads_lines limit make initial).run hroom acts
  obtain ⟨texts, hfit, hcontents, hstream⟩ := h.delivered
  have hcount : r.contents.length = texts.length := by rw [hcontents, List.length_map]
  have hdelivered : delivered = texts := by
    change (rawLines stream).take _ = _
    rw [hcount, hstream, Http.rawLines_block fun text ht => (hfit text ht).1]
    exact List.take_left
  rw [hdelivered]
  refine ⟨⟨hcontents, hstream, fun text ht => (hfit text ht).2⟩, ?_, h.waits_iff hroom,
    h.refused_iff hroom, h.rest_eq hroom, ?_, h.next_eq⟩
  · intro n
    rw [h.contents_polls hroom n, hstream, linesWithin_block hfit, hcount,
      List.take_length_add_append, List.map_append, hcontents]
  · intro hlong later
    obtain ⟨hbuffer, hstill⟩ := h.run_of_overlong hroom hlong later
    exact ⟨((h.run hroom later).refused_iff hroom _).2 ⟨rfl, hstill⟩, hbuffer⟩

/-- At a limit of two bytes: a line of two whose terminator comes in two pieces
is delivered, and a line of three is refused for ever. -/
theorem lines_resume_split :
    let acts : List Reader.Act :=
      [.arrive [97, 98, 13], .poll, .arrive [10, 99, 100, 101, 13], .poll, .poll]
    let r : Reader String := Reader.run ⟨lines 2 id, [], []⟩ acts
    (2 : UInt64).toNat + 2 < UInt64.size ∧ r.contents = [Utf8.decodeLossy [97, 98]] ∧
      r.buffer = [99, 100, 101, 13] ∧
      ∀ later, (r.run later).next.answer = .refused (.lineTooLong 2) ∧
        (r.run later).buffer = r.buffer ++ Reader.arrived later := by
  intro acts r
  have hlimit : (2 : UInt64).toNat + 2 < UInt64.size := by decide
  obtain ⟨_, _, _, _, _, hfinal, _⟩ := lines_resume 2 hlimit (id : String → String) [] acts
  refine ⟨hlimit, rfl, rfl, hfinal ?_⟩
  change 3 < 4
  decide

end Framing

end ProxyTunnel
