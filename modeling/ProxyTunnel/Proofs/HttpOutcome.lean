/-
The HTTP handshake as a language of answers.

Which answers open a tunnel is said of their bytes alone. `Http.splitHead` cuts
a stream behind its first CR LF CR LF; the lines of what stands before the cut
(`Http.rawLines`) must be short enough, and the first of them must announce
success (`Http.announces`). Text, repaired or not, plays no part in it.

The handshake looks at decoded text, line by line. That both agree rests on two
facts: the first CR LF CR LF ends the first line that is empty and not the first
(`Http.splitHead_line`), and ASCII stands in the text where it stands in the
bytes (`Http.checkStatus_decodeLossy`). `Handshake.negotiate_http` is the result.
-/
import ProxyTunnel.Handshake
import ProxyTunnel.Proofs.Settlement
import ProxyTunnel.Proofs.StatusLines

set_option autoImplicit false

namespace ProxyTunnel

open Event

namespace Http

/-! ## The language -/

/-- The bytes up to and with the first CR LF CR LF, and the bytes behind it. -/
def splitHead : Bytes → Option (Bytes × Bytes)
  | 13 :: 10 :: 13 :: 10 :: rest => some ([13, 10, 13, 10], rest)
  | b :: bytes => (splitHead bytes).map fun p => (b :: p.1, p.2)
  | [] => none

/-- The lines that end with CR LF, without it. -/
def rawLines : Bytes → List Bytes
  | 13 :: 10 :: rest => [] :: rawLines rest
  | b :: bytes =>
    match rawLines bytes with
    | [] => []
    | line :: lines => (b :: line) :: lines
  | [] => []

/-- No line is longer than 8192 bytes. -/
def ShortLines (head : Bytes) : Prop := ∀ line ∈ rawLines head, line.length ≤ 8192

instance (head : Bytes) : Decidable (ShortLines head) :=
  inferInstanceAs (Decidable (∀ line ∈ rawLines head, line.length ≤ 8192))

/-- The answers that open a tunnel, by the bytes they leave to it. -/
def Accepts (stream rest : Bytes) : Prop :=
  ∃ head, splitHead stream = some (head, rest) ∧ ShortLines head ∧
    announces ((rawLines head).headD [])

/-! ## Lines -/

theorem splitHead_cons (b : UInt8) (bytes : Bytes) :
    splitHead (b :: bytes) =
      if b = 13 ∧ bytes.take 3 = [10, 13, 10] then some ([13, 10, 13, 10], bytes.drop 3)
      else (splitHead bytes).map fun p => (b :: p.1, p.2) := by
  by_cases h : b = 13 ∧ bytes.take 3 = [10, 13, 10]
  · rw [if_pos h]
    obtain ⟨rfl, ht⟩ := h
    rw [← List.take_append_drop 3 bytes, ht]
    rfl
  · rw [if_neg h, splitHead]
    rintro rest rfl rfl
    exact h ⟨rfl, rfl⟩

theorem rawLines_cons (b : UInt8) (bytes : Bytes) :
    rawLines (b :: bytes) =
      if b = 13 ∧ bytes.head? = some 10 then [] :: rawLines (bytes.drop 1)
      else match rawLines bytes with
        | [] => []
        | line :: lines => (b :: line) :: lines := by
  by_cases h : b = 13 ∧ bytes.head? = some 10
  · rw [if_pos h]
    obtain ⟨rfl, hh⟩ := h
    obtain ⟨rest, rfl⟩ := List.head?_eq_some_iff.1 hh
    rfl
  · rw [if_neg h, rawLines]
    rintro rest rfl rfl
    exact h ⟨rfl, rfl⟩

/-- What is cut off is what was there. -/
theorem eq_of_splitHead {stream head rest : Bytes} (h : splitHead stream = some (head, rest)) :
    stream = head ++ rest := by
  -- along the recursion of `splitHead`: it stops at the four bytes or goes on by one
  induction stream generalizing head with
  | nil => cases h
  | cons b bytes ih =>
    rw [splitHead_cons] at h
    by_cases hb : b = 13 ∧ bytes.take 3 = [10, 13, 10]
    · rw [if_pos hb] at h
      cases h
      rw [hb.1, ← List.take_append_drop 3 bytes, hb.2]
      rfl
    · rw [if_neg hb] at h
      obtain ⟨⟨head', rest'⟩, hp, hq⟩ := Option.map_eq_some_iff.1 h
      cases hq
      rw [ih hp]
      rfl

/-- A line that no terminator ends early. -/
def Unended (line : Bytes) : Prop := Framing.findTerminator (line ++ [13]) = none

theorem Unended.tail {b : UInt8} {line : Bytes} (h : Unended (b :: line)) :
    ¬ (b = 13 ∧ (line ++ [13]).head? = some 10) ∧ Unended line := by
  unfold Unended at h
  rw [List.cons_append, Framing.findTerminator_cons] at h
  by_cases hb : b = 13 ∧ (line ++ [13]).head? = some 10
  · rw [if_pos hb] at h
    cases h
  · rw [if_neg hb, Option.map_eq_none_iff] at h
    exact ⟨hb, h⟩

/-- What stands before a terminator is a line, and the terminator is its end. -/
theorem unended_of_findTerminator {stream : Bytes} {position : Nat}
    (h : Framing.findTerminator stream = some position) :
    Unended (stream.take position) ∧ (stream.take position).length = position ∧
      stream = stream.take position ++ 13 :: 10 :: stream.drop (position + 2) := by
  have heq := Framing.eq_of_findTerminator h
  have hlen := Framing.add_two_le_length heq
  refine ⟨?_, by rw [List.length_take]; omega, heq⟩
  unfold Unended
  rcases hp : Framing.findTerminator (stream.take position ++ [13]) with _ | q
  · rfl
  · -- a terminator within would come before the first one
    have hq := Framing.findTerminator_append hp (10 :: stream.drop (position + 2))
    rw [List.append_assoc] at hq
    change Framing.findTerminator (stream.take position ++ 13 :: 10 :: _) = _ at hq
    rw [← heq, h] at hq
    cases hq
    have hlen' := Framing.add_two_le_length (Framing.eq_of_findTerminator hp)
    simp only [List.length_append, List.length_take, List.length_cons, List.length_nil] at hlen'
    omega

theorem rawLines_line {line : Bytes} (h : Unended line) (rest : Bytes) :
    rawLines (line ++ 13 :: 10 :: rest) = line :: rawLines rest := by
  induction line with
  | nil => rfl
  | cons b line ih =>
    obtain ⟨hb, hline⟩ := h.tail
    have hhead : (line ++ 13 :: 10 :: rest).head? = (line ++ [13]).head? := by
      rcases line with _ | ⟨a, line⟩ <;> rfl
    rw [List.cons_append, rawLines_cons, hhead, if_neg hb, ih hline]

/-- As `splitHead`, for a stream that follows the end of a line. -/
def splitAfter : Bytes → Option (Bytes × Bytes)
  | 13 :: 10 :: rest => some ([13, 10], rest)
  | stream => splitHead stream

/-- **The first CR LF CR LF ends the first line that is empty and not the
first.** -/
theorem splitHead_line {line : Bytes} (h : Unended line) (rest : Bytes) :
    splitHead (line ++ 13 :: 10 :: rest) =
      (splitAfter rest).map fun p => (line ++ 13 :: 10 :: p.1, p.2) := by
  induction line with
  | nil =>
    unfold splitAfter
    split
    · rfl
    · -- neither byte of the terminator begins a CR LF CR LF
      rename_i hne
      have h13 : ¬ ((13 : UInt8) = 13 ∧ (10 :: rest).take 3 = [10, 13, 10]) := by
        rintro ⟨_, ht⟩
        have ht' : rest.take 2 = [13, 10] := (List.cons.inj ht).2
        refine hne (rest.drop 2) ?_
        rw [← List.take_append_drop 2 rest, ht']
        rfl
      have h10 : ¬ ((10 : UInt8) = 13 ∧ rest.take 3 = [10, 13, 10]) := by
        intro h
        exact absurd h.1 (by decide)
      rw [List.nil_append, splitHead_cons, if_neg h13, splitHead_cons, if_neg h10, Option.map_map]
      rfl
  | cons b line ih =>
    obtain ⟨hb, hline⟩ := h.tail
    have hne : ¬ (b = 13 ∧ (line ++ 13 :: 10 :: rest).take 3 = [10, 13, 10]) := by
      rintro ⟨hb', ht⟩
      refine hb ⟨hb', ?_⟩
      rcases line with _ | ⟨a, line⟩
      · exact absurd (List.cons.inj ht).1 (by decide)
      · exact congrArg some (List.cons.inj ht).1
    rw [List.cons_append, splitHead_cons, if_neg hne, ih hline, Option.map_map]
    rfl

/-- A stream without the end of a line has no head. -/
theorem splitHead_eq_none {stream : Bytes} (h : Framing.findTerminator stream = none) :
    splitHead stream = none := by
  induction stream with
  | nil => rfl
  | cons b bytes ih =>
    rw [Framing.findTerminator_cons] at h
    by_cases hb : b = 13 ∧ bytes.head? = some 10
    · rw [if_pos hb] at h
      cases h
    · rw [if_neg hb, Option.map_eq_none_iff] at h
      have hne : ¬ (b = 13 ∧ bytes.take 3 = [10, 13, 10]) := by
        rintro ⟨hb', ht⟩
        refine hb ⟨hb', ?_⟩
        rw [← List.take_append_drop 3 bytes, ht]
        rfl
      rw [splitHead_cons, if_neg hne, ih h]
      rfl

theorem splitAfter_eq_none {stream : Bytes} (h : Framing.findTerminator stream = none) :
    splitAfter stream = none := by
  unfold splitAfter
  split
  · cases h
  · exact splitHead_eq_none h

/-! ## The lines, cut off a whole stream -/

theorem fits_framing : framing.Fits 8194 := .line (by decide) (by decide)

/-- What the rule of the handshake makes of a whole stream. -/
theorem cut_framing (stream : Bytes) :
    framing.cut stream =
      match Framing.findTerminator stream with
      | none =>
        if 8193 < stream.length then ⟨.refused (.lineTooLong 8192), framing, stream⟩
        else ⟨.waiting, .line Framing.defaultLimit stream.length id, stream⟩
      | some position =>
        if 8192 < position then ⟨.refused (.lineTooLong 8192), framing, stream⟩
        else ⟨.package (Utf8.decodeLossy (stream.take position)) none, framing,
          stream.drop (position + 2)⟩ := by
  rw [← Framing.findTerminatorFrom_zero]
  rfl

/-- A stream without the end of a line holds no line. -/
theorem pick_framing_of_none {stream : Bytes} (h : Framing.findTerminator stream = none) :
    ∃ e next, Framing.pick (some framing) stream = (.error e, next, stream) := by
  have hcut := cut_framing stream
  rw [h] at hcut
  dsimp only at hcut
  by_cases hlong : 8193 < stream.length
  · rw [if_pos hlong] at hcut
    rw [Framing.pick_of_refused (by rw [hcut]), hcut]
    exact ⟨_, _, rfl⟩
  · rw [if_neg hlong] at hcut
    exact ⟨_, _, Framing.pick_of_waiting (by rw [hcut])⟩

section

variable {stream : Bytes} {position : Nat}

/-- A line that is too long is refused. -/
theorem pick_framing_of_lt (h : Framing.findTerminator stream = some position)
    (hlong : 8192 < position) :
    ∃ e next, Framing.pick (some framing) stream = (.error e, next, stream) := by
  have hcut := cut_framing stream
  rw [h] at hcut
  dsimp only at hcut
  rw [if_pos hlong] at hcut
  rw [Framing.pick_of_refused (by rw [hcut]), hcut]
  exact ⟨_, _, rfl⟩

/-- Any other line is a package, and is used up with its end. -/
theorem pick_framing_of_le (h : Framing.findTerminator stream = some position)
    (hshort : position ≤ 8192) :
    Framing.pick (some framing) stream =
      (.ok (Utf8.decodeLossy (stream.take position)), some framing,
        stream.drop (position + 2)) := by
  have hcut := cut_framing stream
  rw [h] at hcut
  dsimp only at hcut
  rw [if_neg (Nat.not_lt.2 hshort)] at hcut
  have hanswer : (framing.cut stream).answer =
      .package (Utf8.decodeLossy (stream.take position)) none := by
    rw [hcut]
  rw [Framing.pick_of_package hanswer, hcut]
  rfl

end

/-- A line is empty if its text is. -/
theorem isEmpty_decodeLossy {line : Bytes} : (Utf8.decodeLossy line).isEmpty ↔ line = [] := by
  rw [String.isEmpty_iff, Utf8.decodeLossy, String.ofList_eq_empty_iff, Utf8.decodeChars_eq_nil]

theorem shortLines_line {line : Bytes} (h : Unended line) (head : Bytes) :
    ShortLines (line ++ 13 :: 10 :: head) ↔ line.length ≤ 8192 ∧ ShortLines head := by
  unfold ShortLines
  rw [rawLines_line h, List.forall_mem_cons]

/-- Behind the end of a line, an empty line is the end, and any other line is
followed by the end of a line. -/
theorem splitAfter_line {line : Bytes} (h : Unended line) (hne : line ≠ []) (rest : Bytes) :
    splitAfter (line ++ 13 :: 10 :: rest) =
      (splitAfter rest).map fun p => (line ++ 13 :: 10 :: p.1, p.2) := by
  rw [← splitHead_line h]
  rcases line with _ | ⟨b, line⟩
  · exact absurd rfl hne
  rw [splitAfter]
  rintro more heq
  -- such a line would be ended by its first byte
  obtain ⟨rfl, htail⟩ := List.cons.inj heq
  refine h.tail.1 ⟨rfl, ?_⟩
  rcases line with _ | ⟨a, line⟩
  · exact absurd (List.cons.inj htail).1 (by decide)
  · exact congrArg some (List.cons.inj htail).1

/-- **The lines that a handshake skips end where the head ends.** -/
theorem seek_framing (stream rest : Bytes) :
    (∃ next, Framing.seek String.isEmpty (some framing) stream = (.ok (), next, rest)) ↔
      ∃ head, splitAfter stream = some (head, rest) ∧ ShortLines head := by
  -- by induction on the length, line by line
  induction hn : stream.length using Nat.strongRecOn generalizing stream with
  | ind n ih =>
    rcases hfind : Framing.findTerminator stream with _ | position
    · obtain ⟨e, next, hpick⟩ := pick_framing_of_none hfind
      rw [Framing.seek_of_error hpick, splitAfter_eq_none hfind]
      refine iff_of_false ?_ ?_
      · rintro ⟨_, ⟨⟩⟩
      · rintro ⟨_, ⟨⟩, _⟩
    obtain ⟨hline, hlen, heq⟩ := unended_of_findTerminator hfind
    generalize hl : stream.take position = line at hline hlen heq
    generalize ha : stream.drop (position + 2) = after at heq
    by_cases hlong : 8192 < position
    · -- the line that is too long belongs to the head, if there is one
      obtain ⟨e, next, hpick⟩ := pick_framing_of_lt hfind hlong
      have hne : line ≠ [] := by
        rintro rfl
        cases hlen
        cases hlong
      rw [Framing.seek_of_error hpick, heq, splitAfter_line hline hne]
      refine iff_of_false ?_ ?_
      · rintro ⟨_, ⟨⟩⟩
      · rintro ⟨head, hhead, hshort⟩
        obtain ⟨⟨head', rest'⟩, _, ⟨⟩⟩ := Option.map_eq_some_iff.1 hhead
        have hle := ((shortLines_line hline head').1 hshort).1
        omega
    have hpick := pick_framing_of_le hfind (Nat.not_lt.1 hlong)
    rw [hl, ha] at hpick
    by_cases hnil : line = []
    · -- the empty line is the end of both
      rw [Framing.seek_of_last hpick (isEmpty_decodeLossy.2 hnil), heq, hnil]
      have hshort : ShortLines [13, 10] := by
        rintro line hmem
        obtain rfl := List.mem_singleton.1 hmem
        exact Nat.zero_le _
      constructor
      · rintro ⟨_, ⟨⟩⟩
        exact ⟨[13, 10], rfl, hshort⟩
      · rintro ⟨_, ⟨⟩, _⟩
        exact ⟨_, rfl⟩
    · -- any other line goes to the head, and both go on behind it
      have hlast : (Utf8.decodeLossy line).isEmpty = false :=
        Bool.eq_false_iff.2 (mt isEmpty_decodeLossy.1 hnil)
      have hlt : after.length < stream.length := by
        rw [heq, List.length_append, List.length_cons, List.length_cons]
        omega
      rw [Framing.seek_of_lt hpick hlast hlt, ih after.length (hn ▸ hlt) after rfl, heq,
        splitAfter_line hline hnil]
      have hle : line.length ≤ 8192 := by omega
      constructor
      · rintro ⟨head, hhead, hshort⟩
        refine ⟨line ++ 13 :: 10 :: head, ?_, (shortLines_line hline head).2 ⟨hle, hshort⟩⟩
        rw [hhead]
        rfl
      · rintro ⟨head, hhead, hshort⟩
        obtain ⟨⟨head', rest'⟩, hsplit, ⟨⟩⟩ := Option.map_eq_some_iff.1 hhead
        exact ⟨head', hsplit, ((shortLines_line hline head').1 hshort).2⟩

/-! ## The dialogue comes to what the language says -/

/-- What the language says of a stream whose first line is known. -/
theorem accepts_line {line : Bytes} (h : Unended line) (after rest : Bytes) :
    Accepts (line ++ 13 :: 10 :: after) rest ↔ line.length ≤ 8192 ∧ announces line ∧
      ∃ head, splitAfter after = some (head, rest) ∧ ShortLines head := by
  unfold Accepts
  rw [splitHead_line h]
  constructor
  · rintro ⟨head, hhead, hshort, hann⟩
    obtain ⟨⟨head', rest'⟩, hsplit, ⟨⟩⟩ := Option.map_eq_some_iff.1 hhead
    obtain ⟨hle, hshort'⟩ := (shortLines_line h head').1 hshort
    rw [rawLines_line h] at hann
    exact ⟨hle, hann, head', hsplit, hshort'⟩
  · rintro ⟨hle, hann, head, hsplit, hshort⟩
    refine ⟨line ++ 13 :: 10 :: head, ?_, (shortLines_line h head).2 ⟨hle, hshort⟩, ?_⟩
    · rw [hsplit]
      rfl
    · rw [rawLines_line h]
      exact hann

/-- Behind the first line: the head is skipped, and nothing is sent. -/
theorem settle_skip (stream : Bytes) :
    ((Dialogue.skipTo String.isEmpty (.finish (.ok ()))).settle (some framing) stream).frames =
        [] ∧
      ∀ rest,
        (Dialogue.skipTo String.isEmpty (.finish (.ok ()))).settle (some framing) stream =
            ⟨.ok (), [], rest⟩ ↔
          ∃ head, splitAfter stream = some (head, rest) ∧ ShortLines head := by
  rw [Dialogue.settle]
  rcases hseek : Framing.seek String.isEmpty (some framing) stream with ⟨e | ⟨⟩, next, left⟩
  · refine ⟨rfl, ?_⟩
    intro rest
    rw [← seek_framing, hseek]
    refine iff_of_false ?_ ?_
    · rintro ⟨⟩
    · rintro ⟨_, ⟨⟩⟩
  · refine ⟨rfl, ?_⟩
    intro rest
    rw [← seek_framing, hseek]
    constructor
    · rintro ⟨⟩
      exact ⟨next, rfl⟩
    · rintro ⟨_, ⟨⟩⟩
      rfl

/-- Behind the request: nothing more is sent, and the tunnel is open exactly to
the answers of the language. -/
theorem settle_afterRequest (stream : Bytes) :
    ((Dialogue.receive afterStatus).settle (some framing) stream).frames = [] ∧
      ∀ rest, (Dialogue.receive afterStatus).settle (some framing) stream =
        ⟨.ok (), [], rest⟩ ↔ Accepts stream rest := by
  rw [Dialogue.settle]
  rcases hfind : Framing.findTerminator stream with _ | position
  · obtain ⟨e, next, hpick⟩ := pick_framing_of_none hfind
    rw [hpick]
    refine ⟨rfl, ?_⟩
    intro rest
    refine iff_of_false ?_ ?_
    · rintro ⟨⟩
    · rintro ⟨head, hhead, _⟩
      rw [splitHead_eq_none hfind] at hhead
      cases hhead
  obtain ⟨hline, hlen, heq⟩ := unended_of_findTerminator hfind
  by_cases hlong : 8192 < position
  · obtain ⟨e, next, hpick⟩ := pick_framing_of_lt hfind hlong
    rw [hpick]
    refine ⟨rfl, ?_⟩
    intro rest
    refine iff_of_false ?_ ?_
    · rintro ⟨⟩
    · intro h
      rw [heq, accepts_line hline] at h
      have hle := h.1
      omega
  rw [pick_framing_of_le hfind (Nat.not_lt.1 hlong)]
  generalize stream.take position = line at hline hlen heq
  generalize stream.drop (position + 2) = after at heq
  have hle : line.length ≤ 8192 := by omega
  dsimp only
  unfold afterStatus
  rcases hstatus : checkStatus (Utf8.decodeLossy line) with e | ⟨⟩
  · refine ⟨rfl, ?_⟩
    intro rest
    refine iff_of_false ?_ ?_
    · rintro ⟨⟩
    · intro h
      rw [heq, accepts_line hline, ← checkStatus_decodeLossy, hstatus] at h
      cases h.2.1
  · obtain ⟨hframes, hends⟩ := settle_skip after
    refine ⟨hframes, ?_⟩
    intro rest
    rw [heq, accepts_line hline, and_iff_right hle,
      and_iff_right ((checkStatus_decodeLossy line).1 hstatus)]
    exact hends rest

end Http

/-! ## Negotiations -/

/-- **An HTTP negotiation accepts the language, and stops where the head does.**
If nothing fails and nobody cancels, then whatever the cuts, the waits and the
size of reads are, one request is written and flushed; it succeeds exactly on
the answers of `Http.Accepts`; and then the bytes behind the first CR LF CR LF,
all of them and no others, are left to the tunnel. -/
theorem Handshake.negotiate_http (credentials : Option Credentials) (remote : Destination)
    (limits : Limits) (supervised : Bool) (t : Tunnel)
    (hcalm : t.socket.Calm Session.attemptToken) (hroom : 8194 ≤ limits.maxPackage) :
    let after := (Handshake.mk .http credentials).negotiate remote
      (Session.start t limits supervised)
    (∃ events, t.socket.journal.Gains after.2.journal events ∧
      parts events = ([Http.request remote (Http.effective credentials)], [])) ∧
    (after.1 = .ok () ↔ ∃ rest, Http.Accepts t.unread rest) ∧
    (after.1 = .ok () → ∃ head rest, Http.splitHead t.unread = some (head, rest) ∧
      t.unread = head ++ rest ∧ after.2.buffer ++ after.2.tunnel.unread = rest ∧
      ∀ room, 0 < room → (after.2.detach.readToEnd room).1 = .ok rest) := by
  have hs := Session.settled_start hcalm hroom supervised
  have hfit : Framing.AllFit 8194 (some Http.framing) := by
    rintro r ⟨⟩
    exact Http.fits_framing
  have key := Dialogue.run_of_settled (Http.dialogue (Http.effective credentials) remote)
    (Http.fits_framing.resumed []) hfit hs
  rw [Http.dialogue, Dialogue.settle] at key
  obtain ⟨hframes, hends⟩ := Http.settle_afterRequest t.unread
  change Dialogue.Settles 8194 (Ending.behind _
    ((Dialogue.receive Http.afterStatus).settle (some Http.framing) t.unread)) _ _ at key
  generalize (Dialogue.receive Http.afterStatus).settle (some Http.framing) t.unread = ending
    at key hframes hends
  obtain ⟨result, frames, left⟩ := ending
  obtain rfl : frames = [] := hframes
  intro after
  have hresult : after.1 = result := key.result
  have hleft : after.2.stream = left := key.rest
  have haccepts (h : after.1 = .ok ()) : Http.Accepts t.unread left := by
    rw [← hends, ← hresult, h]
  refine ⟨key.sent, ⟨?_, ?_⟩, ?_⟩
  · intro h
    exact ⟨left, haccepts h⟩
  · rintro ⟨rest, h⟩
    rw [hresult]
    exact congrArg Ending.result ((hends rest).2 h)
  · intro h
    obtain ⟨head, hsplit, _, _⟩ := haccepts h
    refine ⟨head, left, hsplit, Http.eq_of_splitHead hsplit, hleft, ?_⟩
    intro room hr
    rw [← hleft]
    exact Session.readToEnd_detach key.settled hr

/-- An answer cut within the ends of its lines, with two bytes of the tunnel at
its end. -/
def splitAnswer : Tunnel :=
  .ofSocket ⟨[.ready [104, 116, 84, 112, 47, 49, 46, 48, 32, 50, 57, 57, 195, 13], .pending,
    .ready [10, 13], .ready [10, 104, 105]], [.ready (some 3), .pending], [], [], []⟩

theorem Handshake.negotiate_http_split :
    ((Handshake.mk .http none).negotiate (.named "a" 80)
        (Session.start splitAnswer ⟨1, 8194⟩ true)).1 = .ok () ∧
      (((Handshake.mk .http none).negotiate (.named "a" 80)
        (Session.start splitAnswer ⟨1, 8194⟩ true)).2.detach.readToEnd 1).1 =
          .ok [104, 105] := by
  have hcalm : splitAnswer.socket.Calm Session.attemptToken := by
    refine ⟨rfl, ?_, ?_, Script.calm_nil⟩
    · simp [splitAnswer, Tunnel.ofSocket, Step.Calm]
    · simp [splitAnswer, Tunnel.ofSocket, Step.Calm]
  obtain ⟨_, haccepts, hrest⟩ := Handshake.negotiate_http none (.named "a" 80) ⟨1, 8194⟩ true
    splitAnswer hcalm (Nat.le_refl _)
  have hsplit : Http.splitHead splitAnswer.unread =
      some ([104, 116, 84, 112, 47, 49, 46, 48, 32, 50, 57, 57, 195, 13, 10, 13, 10],
        [104, 105]) := by
    decide
  have hok := haccepts.2 ⟨[104, 105], _, hsplit, by decide, by decide⟩
  obtain ⟨head, rest, hhead, _, _, hroom⟩ := hrest hok
  obtain ⟨_, rfl⟩ := Prod.ext_iff.1 (Option.some.inj (hsplit.symm.trans hhead))
  exact ⟨hok, hroom 1 Nat.one_pos⟩

end ProxyTunnel
