/-
Credentials in a request for a tunnel, as a proxy reads them.

Credentials are the last line of a request, and nothing else of the request
depends on them (`Http.request_some`, `Http.request_none`). The value of that
line is Base64, and so it has no character that could end the line, whatever
characters the credentials have.

A proxy finds the line by its name (`Http.authorizations`), decodes its value and
takes apart what it finds at the first colon (`Http.readAuthorization`). Two
things are lost on the way to it. ASCII has one byte for all the characters that
it lacks, and a colon in the user name is taken for the one behind it. Where
neither happens, the proxy has the credentials that were meant, and so no two
such credentials have the same line (`Http.authorization_tells`).

The destination stands in the same request, and a host name may hold line ends of
its own. The lines that it makes by them stand in front of all this, and the
statement keeps them apart from the one line of the credentials.
-/
import Mathlib.Data.List.Basic
import ProxyTunnel.Proofs.Naming
import ProxyTunnel.Proofs.Secrets

set_option autoImplicit false

namespace ProxyTunnel

/-- Credentials of which nothing is lost: all of it is ASCII, and there is no colon in
the user name. -/
structure Credentials.IsLegible (who : Credentials) : Prop where
  username : ∀ c ∈ who.username.toList, c.toNat < 0x80
  password : ∀ c ∈ who.password.toList, c.toNat < 0x80
  colon : ':' ∉ who.username.toList

instance (who : Credentials) : Decidable who.IsLegible :=
  decidable_of_iff (who.username.toList.all (·.toNat < 0x80) = true ∧
      who.password.toList.all (·.toNat < 0x80) = true ∧ ':' ∉ who.username.toList) <| by
    simp only [List.all_eq_true, decide_eq_true_eq]
    exact ⟨fun ⟨hname, hword, hcolon⟩ => ⟨hname, hword, hcolon⟩,
      fun h => ⟨h.username, h.password, h.colon⟩⟩

/-! ## The alphabet -/

namespace Base64

/-- Symbols, and behind them the signs that make up the last group of four: two at
most. -/
def IsPadded (text : List Char) : Prop :=
  ∃ word signs, text = word ++ List.replicate signs padding ∧ (∀ c ∈ word, c ∈ alphabet) ∧
    signs ≤ 2 ∧ text.length % 4 = 0

theorem isPadded_encode (bytes : Bytes) : IsPadded (encode bytes) := by
  obtain ⟨sextets, hbits, hencode⟩ := encode_eq bytes
  refine ⟨sextets.map symbol, (3 - bytes.length % 3) % 3, hencode, ?_, by omega, ?_⟩
  · simp only [List.forall_mem_map]
    intro n hn
    exact List.mem_of_getElem? (getElem?_alphabet n (hbits n hn))
  · rw [length_encode, Nat.mul_mod_right]

/-- One byte, two and three behind the first group. -/
example : [[102], [102, 111], [102, 111, 111]].map (fun rest => encode ([98, 97, 114] ++ rest)) =
    ["YmFyZg==".toList, "YmFyZm8=".toList, "YmFyZm9v".toList] := by decide

/-- All of it is ASCII. -/
theorem IsPadded.ascii {text : List Char} (h : IsPadded text) : ∀ c ∈ text, c.toNat < 0x80 := by
  have halphabet : alphabet.all (fun c => decide (c.toNat < 0x80)) = true := by decide
  obtain ⟨word, signs, rfl, hword, _, _⟩ := h
  intro c hc
  rcases List.mem_append.1 hc with hsymbol | hsign
  · exact of_decide_eq_true (List.all_eq_true.1 halphabet c (hword c hsymbol))
  · rw [List.eq_of_mem_replicate hsign]
    decide

end Base64

namespace Http

/-! ## The line of credentials among the others -/

/-- The line of credentials has neither CR nor LF, whatever the credentials have. -/
theorem whole_authorizationLine (who : Credentials) :
    ∀ b ∈ authorizationLine who, b ≠ 13 ∧ b ≠ 10 := by
  have hstart : 13 ∉ authorizationStart ∧ 10 ∉ authorizationStart := by decide
  intro b hb
  rw [authorizationLine_eq] at hb
  rcases List.mem_append.1 hb with hb | hb
  · exact ⟨fun h => hstart.1 (h ▸ hb), fun h => hstart.2 (h ▸ hb)⟩
  · have hplain := List.all_eq_true.1 (Base64.all_isPlain_encode
      (Charset.ascii.encode (who.username ++ ":" ++ who.password)))
    rw [basicToken, Charset.encode, String.toList_ofList] at hb
    obtain ⟨c, hc, rfl⟩ := List.mem_map.1 hb
    exact (Charset.isPlain_iff_asciiByte.1 (hplain c hc)).2

/-- A byte that ends no line stands in the first one. -/
theorem rawLines_within {b : UInt8} {bytes line : Bytes} {lines : List Bytes}
    (h : ¬ (b = 13 ∧ bytes.head? = some 10)) (hlines : rawLines bytes = line :: lines) :
    rawLines (b :: bytes) = (b :: line) :: lines := by
  rw [rawLines_cons, if_neg h, hlines]

/-- Behind the end of a line, the lines begin anew. -/
theorem rawLines_append (bytes rest : Bytes) : ∃ line lines,
    rawLines (bytes ++ lineEnd) = line :: lines ∧
      rawLines (bytes ++ lineEnd ++ rest) = line :: lines ++ rawLines rest := by
  -- on the number of bytes, for the end of an empty line takes two at once
  induction hlength : bytes.length using Nat.strongRecOn generalizing bytes with
  | ind length ih =>
    subst hlength
    cases bytes with
    | nil => exact ⟨[], [], rfl, rfl⟩
    | cons b bytes =>
      by_cases hend : b = 13 ∧ bytes.head? = some 10
      · obtain ⟨rfl, hlf⟩ := hend
        obtain ⟨more, rfl⟩ := List.head?_eq_some_iff.1 hlf
        have hless : more.length < (13 :: 10 :: more).length := by
          simp only [List.length_cons]
          omega
        obtain ⟨line, lines, hlast, hmore⟩ := ih more.length hless more rfl
        refine ⟨[], line :: lines, ?_, ?_⟩
        · simp only [List.cons_append, rawLines, hlast]
        · simp only [List.cons_append, rawLines, hmore]
      · obtain ⟨line, lines, hlast, hmore⟩ := ih bytes.length (by simp) bytes rfl
        have hhead : ∀ behind, ¬ (b = 13 ∧ (bytes ++ lineEnd ++ behind).head? = some 10) := by
          intro behind
          cases bytes with
          | nil => simp [lineEnd]
          | cons a bytes => exact hend
        have hhead' := hhead []
        rw [List.append_nil] at hhead'
        refine ⟨b :: line, lines, rawLines_within hhead' hlast, ?_⟩
        exact rawLines_within (hhead rest) hmore

/-! ## The header lines of credentials -/

/-- The name of a header line, in small letters. -/
def fieldName (line : Bytes) : Bytes := (line.takeWhile (· ≠ 58)).map lowerByte

/-- Whether a header line is one of credentials. -/
def isAuthorization (line : Bytes) : Bool :=
  fieldName line == Charset.ascii.encode "proxy-authorization"

/-- The lines of credentials in a request. -/
def authorizations (bytes : Bytes) : List Bytes := (rawLines bytes).filter isAuthorization

/-- The preamble ends with the end of a line. -/
theorem preamble_eq (remote : Destination) : ∃ bytes, preamble remote = bytes ++ lineEnd := by
  rw [preamble, headLines]
  simp only [Option.map_none, Option.toList_none, List.flatMap_cons, List.flatMap_nil,
    List.append_nil, ← List.append_assoc]
  exact ⟨_, rfl⟩

theorem authorizations_preamble_append (remote : Destination) (rest : Bytes) :
    authorizations (preamble remote ++ rest) =
      authorizations (preamble remote) ++ authorizations rest := by
  obtain ⟨bytes, hpreamble⟩ := preamble_eq remote
  obtain ⟨line, lines, hlast, hmore⟩ := rawLines_append bytes rest
  simp only [authorizations, hpreamble, hlast, hmore, List.filter_append]

theorem isAuthorization_authorizationLine (who : Credentials) :
    isAuthorization (authorizationLine who) = true := by
  rw [authorizationLine_eq]
  rfl

/-- A line that begins with another letter is none. -/
theorem not_isAuthorization {b : UInt8} (h : lowerByte b ≠ 112) (line : Bytes) :
    isAuthorization (b :: line) = false := by
  have hname : Charset.ascii.encode "proxy-authorization" =
      112 :: Charset.ascii.encode "roxy-authorization" := rfl
  rw [isAuthorization, fieldName, hname, List.takeWhile_cons]
  split
  · simp [h]
  · simp

/-- No destination without a line end of its own makes a line of credentials. -/
theorem authorizations_preamble {remote : Destination} (h : ¬ remote.HoldsLineEnd) :
    authorizations (preamble remote) = [] := by
  have hunended := unended_headLines none ((findTerminator_authority_iff remote).2 h)
  have hlines := rawLines_block hunended []
  rw [List.append_nil] at hlines
  have hconnect : isAuthorization (Charset.ascii.encode "CONNECT " ++ authority remote ++
      Charset.ascii.encode " HTTP/1.1") = false :=
    not_isAuthorization (b := 67) (by decide) _
  have hhost : isAuthorization (Charset.ascii.encode "Host: " ++ authority remote) = false :=
    not_isAuthorization (b := 72) (by decide) _
  have hkeep : isAuthorization (Charset.ascii.encode "Proxy-Connection: Keep-Alive") = false := by
    decide
  rw [authorizations, preamble, hlines, headLines]
  simp only [Option.map_none, Option.toList_none, rawLines, List.append_nil, List.filter_cons,
    List.filter_nil, hconnect, hhost, hkeep, Bool.false_eq_true, if_false]

/-- The empty line is no line of credentials. -/
theorem authorizations_lineEnd : authorizations lineEnd = [] := by decide

/-- The line of credentials is one, and the empty one behind it is none. -/
theorem authorizations_authorizationLine (who : Credentials) :
    authorizations (authorizationLine who ++ lineEnd ++ lineEnd) = [authorizationLine who] := by
  have hunended : Unended (authorizationLine who) :=
    unended_of_not_mem fun hcr => (whole_authorizationLine who 13 hcr).1 rfl
  have hlines : rawLines (authorizationLine who ++ lineEnd ++ lineEnd) =
      authorizationLine who :: rawLines lineEnd := by
    rw [List.append_assoc]
    exact rawLines_line hunended lineEnd
  rw [authorizations, hlines, List.filter_cons_of_pos (isAuthorization_authorizationLine who)]
  exact congrArg (authorizationLine who :: ·) authorizations_lineEnd

/-! ## What a proxy reads -/

/-- The bytes before the first colon, and those behind it. -/
def splitAtColon (bytes : Bytes) : Option (Bytes × Bytes) :=
  match bytes.dropWhile (· ≠ 58) with
  | [] => none
  | _ :: behind => some (bytes.takeWhile (· ≠ 58), behind)

/-- The credentials of a line: behind its start stands Base64 of a user name and a
password, with the first colon between them. -/
def readAuthorization (line : Bytes) : Option Credentials := do
  let value ← line.dropPrefix? authorizationStart
  let bytes ← Base64.decode? (Utf8.decodeLossy value).toList
  let (username, password) ← splitAtColon bytes
  return ⟨Utf8.decodeLossy username, Utf8.decodeLossy password⟩

/-- The text that a line of credentials is about. -/
def authorizationText (who : Credentials) : String := who.username ++ ":" ++ who.password

/-- The value of a line, read as text, is what was written. -/
theorem decodeLossy_basicToken (who : Credentials) :
    Utf8.decodeLossy (Charset.ascii.encode (basicToken who)) = basicToken who := by
  have hascii := (Base64.isPadded_encode (Charset.ascii.encode (authorizationText who))).ascii
  rw [decodeLossy_encode_ascii]
  apply asciiImage_of_ascii
  rw [basicToken, String.toList_ofList]
  exact hascii

/-- **A proxy decodes the ASCII image of user name, colon and password.** -/
theorem readAuthorization_eq (who : Credentials) :
    readAuthorization (authorizationLine who) =
      (splitAtColon (Charset.ascii.encode (authorizationText who))).map
        fun parts => ⟨Utf8.decodeLossy parts.1, Utf8.decodeLossy parts.2⟩ := by
  have hvalue : (authorizationLine who).dropPrefix? authorizationStart =
      some (Charset.ascii.encode (basicToken who)) := by
    rw [List.dropPrefix?_eq_some_iff]
    exact ⟨authorizationStart, authorizationLine_eq who, beq_self_eq_true _⟩
  have hdecoded : Base64.decode? (basicToken who).toList =
      some (Charset.ascii.encode (authorizationText who)) := by
    rw [basicToken, String.toList_ofList]
    exact Base64.decode?_encode _
  rw [readAuthorization, hvalue]
  simp only [Option.bind_eq_bind, Option.bind_some, decodeLossy_basicToken, hdecoded]
  cases splitAtColon (Charset.ascii.encode (authorizationText who)) <;> rfl

/-- Only a colon is a colon in ASCII. -/
theorem asciiByte_eq_colon {c : Char} : Charset.asciiByte c = 58 ↔ c = ':' := by
  rw [Charset.asciiByte_eq_iff (by decide) (by decide), ← Char.toNat_inj]
  rfl

/-- The image of a text is cut where the text is. -/
theorem splitAtColon_encode {before behind : List Char} (h : ':' ∉ before) :
    splitAtColon ((before ++ ':' :: behind).map Charset.asciiByte) =
      some (before.map Charset.asciiByte, behind.map Charset.asciiByte) := by
  have hname : ∀ b ∈ before.map Charset.asciiByte, decide (b ≠ 58) = true := by
    intro b hb
    obtain ⟨c, hc, rfl⟩ := List.mem_map.1 hb
    rw [decide_eq_true_eq, Ne, asciiByte_eq_colon]
    rintro rfl
    exact h hc
  have hcolon : Charset.asciiByte ':' = 58 := rfl
  rw [List.map_append, List.map_cons, hcolon, splitAtColon,
    List.dropWhile_append_of_pos hname, List.takeWhile_append_of_pos hname]
  simp

/-- Of a text with a colon, a proxy reads the images of what stands before the first
colon and of what stands behind it. -/
theorem readAuthorization_of_text {who : Credentials} {before behind : List Char}
    (htext : (authorizationText who).toList = before ++ ':' :: behind) (h : ':' ∉ before) :
    readAuthorization (authorizationLine who) =
      some ⟨asciiImage (String.ofList before), asciiImage (String.ofList behind)⟩ := by
  have himage : ∀ chars : List Char, Utf8.decodeLossy (chars.map Charset.asciiByte) =
      asciiImage (String.ofList chars) := by
    intro chars
    rw [Utf8.decodeLossy, decodeChars_asciiByte, asciiImage, String.toList_ofList]
  rw [readAuthorization_eq, Charset.encode, htext, splitAtColon_encode h]
  simp only [Option.map_some, himage]

theorem toList_authorizationText (who : Credentials) :
    (authorizationText who).toList = who.username.toList ++ ':' :: who.password.toList := by
  simp [authorizationText]

/-- **A proxy reads the credentials that were meant exactly if nothing of them is
lost.** -/
theorem readAuthorization_eq_self_iff (who : Credentials) :
    readAuthorization (authorizationLine who) = some who ↔ who.IsLegible := by
  by_cases hcolon : ':' ∈ who.username.toList
  · -- what is read is shorter than the user name
    refine iff_of_false ?_ fun h => h.colon hcolon
    obtain ⟨before, behind, hname, hfirst⟩ := List.eq_append_cons_of_mem hcolon
    have htext : (authorizationText who).toList =
        before ++ ':' :: (behind ++ ':' :: who.password.toList) := by
      rw [toList_authorizationText, hname]
      simp
    rw [readAuthorization_of_text htext hfirst]
    intro h
    have hread : asciiImage (String.ofList before) = who.username :=
      congrArg Credentials.username (Option.some.inj h)
    have hlength := congrArg (·.toList.length) hread
    simp only [asciiImage, String.toList_ofList, List.length_map, hname, List.length_append,
      List.length_cons] at hlength
    omega
  · rw [readAuthorization_of_text (toList_authorizationText who) hcolon, String.ofList_toList,
      String.ofList_toList]
    constructor
    · intro h
      have hread := Option.some.inj h
      refine ⟨?_, ?_, hcolon⟩
      · exact (asciiImage_eq_self_iff _).1 (congrArg Credentials.username hread)
      · exact (asciiImage_eq_self_iff _).1 (congrArg Credentials.password hread)
    · intro h
      rw [asciiImage_of_ascii h.username, asciiImage_of_ascii h.password]

/-- **Credentials survive their encoding.** Whatever is configured and wherever the
tunnel is to go, a negotiation writes the beginning of one request, and

* if neither part of the credentials is empty, that request ends with their line and
  an empty one, and no other line of credentials is behind its preamble; otherwise
  nothing is behind the preamble but the empty line;
* the preamble has no line of credentials, unless the host name has line ends of its
  own;
* the line of any credentials has one start and then padded Base64, with no CR or LF
  in it, and what is decoded from that is the ASCII image of user name, colon and
  password;
* a proxy that splits this at its first colon has the credentials that were meant
  exactly if they are ASCII and the user name has no colon;
* such credentials have different lines if they are different. -/
theorem authorization_tells (configured : Option Credentials) (remote : Destination) :
    let sent := request remote (effective configured)
    (∀ c : Session, c.Writes ((Handshake.mk .http configured).negotiate remote c).2 sent) ∧
    (∀ who, configured = some who → who.username ≠ "" → who.password ≠ "" →
      sent = preamble remote ++ (authorizationLine who ++ lineEnd ++ lineEnd) ∧
        authorizations sent = authorizations (preamble remote) ++ [authorizationLine who]) ∧
    ((∀ who, configured = some who → who.username = "" ∨ who.password = "") →
      sent = preamble remote ++ lineEnd ∧
        authorizations sent = authorizations (preamble remote)) ∧
    (¬ remote.HoldsLineEnd → authorizations (preamble remote) = []) ∧
    (∀ who, ∃ token : List Char, Base64.IsPadded token ∧
      authorizationLine who =
        Charset.ascii.encode ("Proxy-Authorization: Basic " ++ String.ofList token) ∧
      (∀ b ∈ authorizationLine who, b ≠ 13 ∧ b ≠ 10) ∧
      Base64.decode? token =
        some (Charset.ascii.encode (who.username ++ ":" ++ who.password))) ∧
    (∀ who, readAuthorization (authorizationLine who) = some who ↔ who.IsLegible) ∧
    ∀ who other, who.IsLegible → other.IsLegible →
      authorizationLine who = authorizationLine other → who = other := by
  intro sent
  refine ⟨?_, ?_, ?_, authorizations_preamble, ?_, readAuthorization_eq_self_iff, ?_⟩
  · intro c
    have hwritten := (Handshake.mk .http configured).written_negotiate remote c
    change c.Writes _ (sent ++ []) at hwritten
    rwa [List.append_nil] at hwritten
  · intro who hwho husername hpassword
    have hfilled : who.isFilled = true := by
      simp [Credentials.isFilled, husername, hpassword]
    have hsent : sent = preamble remote ++ (authorizationLine who ++ lineEnd ++ lineEnd) := by
      change request remote (effective configured) = _
      rw [hwho, effective_of_isFilled hfilled, request_some]
    refine ⟨hsent, ?_⟩
    rw [hsent, authorizations_preamble_append, authorizations_authorizationLine]
  · intro hempty
    have hnone : effective configured = none := by
      rw [effective, Option.filter_eq_none_iff]
      intro who hwho
      obtain h | h := hempty who hwho
      · simp [Credentials.isFilled, h]
      · simp [Credentials.isFilled, h]
    have hsent : sent = preamble remote ++ lineEnd := by
      change request remote (effective configured) = _
      rw [hnone, request_none]
    refine ⟨hsent, ?_⟩
    rw [hsent, authorizations_preamble_append, authorizations_lineEnd, List.append_nil]
  · intro who
    exact ⟨_, Base64.isPadded_encode _, rfl, whole_authorizationLine who, Base64.decode?_encode _⟩
  · intro who other hwho hother hsame
    -- one line, and the credentials that are read off it
    have hread := (readAuthorization_eq_self_iff who).2 hwho
    rw [hsame, (readAuthorization_eq_self_iff other).2 hother] at hread
    exact (Option.some.inj hread).symm

/-- A password with a colon of its own is read back, and it is not the password
without it. -/
theorem authorization_tells_password :
    let who : Credentials := ⟨"user", "pass:word"⟩
    let other : Credentials := ⟨"user", "password"⟩
    authorizations (request (.named "a" 80) (some who)) = [authorizationLine who] ∧
      authorizations (request (.named "a" 80) none) = [] ∧
      readAuthorization (authorizationLine who) = some who ∧
      authorizationLine who ≠ authorizationLine other := by
  intro who other
  have hwho : who.IsLegible := by decide
  have hother : other.IsLegible := by decide
  obtain ⟨_, hsome, _, hpreamble, _, hread, hinj⟩ :=
    authorization_tells (some who) (.named "a" 80)
  obtain ⟨_, _, hnone, _⟩ := authorization_tells none (.named "a" 80)
  have hempty := hpreamble (not_holdsLineEnd_of_isPlain (by decide))
  have hline := (hsome who rfl (by decide) (by decide)).2
  have hbare := (hnone nofun).2
  rw [hempty] at hline hbare
  refine ⟨hline, hbare, (hread who).2 hwho, ?_⟩
  intro hsame
  exact absurd (hinj who other hwho hother hsame) (by decide)

end Http

end ProxyTunnel
