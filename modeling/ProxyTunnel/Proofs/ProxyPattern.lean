/-
The pattern of proxies.

A text that names a proxy is described by a pattern with optional parts, and a
pattern with optional parts can fit a text in several ways. The one that counts is
the first in an order of preference: an optional part is there if it can be, the
first of two alternatives is taken if it can be, and a repetition takes as many
characters as it can. `Pattern.first` tries them in this order, and goes back to the
last choice where the rest does not fit.

The reader of proxies never goes back. It may be as direct as it is because every
repetition of the pattern is followed by a character that it could not have taken
(`Refuses`), so only the longest run fits; and because a text with a scheme has no
other reading without one (`ProxyUrl.readUserAuthority_of_readScheme`). So what the
reader takes out of a text is what the pattern does (`ProxyUrl.captures_eq`), and a text
names what its parts name (`ProxyUrl.parse_eq`).
-/
import ProxyTunnel.Proofs.ProxyReader

set_option autoImplicit false

namespace ProxyTunnel

/-! ## Patterns -/

/-- The parts of a text that a pattern can take out. -/
inductive Part where
  | scheme | user | password | host | port
  deriving DecidableEq

/-- Parts with their texts, the last one first. -/
abbrev Parts := List (Part × List Char)

/-- Patterns of texts. -/
inductive Pattern where
  /-- A character of a class. -/
  | one (p : Char → Bool)
  /-- As many characters of a class as possible. -/
  | many (p : Char → Bool)
  | word (text : List Char)
  | seq (first second : Pattern)
  | either (first second : Pattern)
  | maybe (inner : Pattern)
  | part (name : Part) (inner : Pattern)

/-- Takes as many characters of a class as possible, and fewer if the rest of the
text does not fit then. -/
def greedy {α : Type} (p : Char → Bool) (k : List Char → Option α) : List Char → Option α
  | [] => k []
  | c :: text => if p c then (greedy p k text).or (k (c :: text)) else k (c :: text)

namespace Pattern

/-- What `k` makes of the rest of a text behind a pattern, for the first way in which
the pattern fits and `k` makes something of the rest. -/
def first {α : Type} : Pattern → (Parts → List Char → Option α) → Parts → List Char → Option α
  | one _, _, _, [] => none
  | one p, k, parts, c :: text => if p c then k parts text else none
  | many p, k, parts, text => greedy p (k parts) text
  | word w, k, parts, text => if w.isPrefixOf text then k parts (text.drop w.length) else none
  | seq a b, k, parts, text => a.first (b.first k) parts text
  | either a b, k, parts, text => (a.first k parts text).or (b.first k parts text)
  | maybe a, k, parts, text => (a.first k parts text).or (k parts text)
  | part name a, k, parts, text =>
    a.first (fun parts' rest => k ((name, text.take (text.length - rest.length)) :: parts') rest)
      parts text

/-- One character of a class, and as many more as possible. -/
def several (p : Char → Bool) : Pattern := seq (one p) (many p)

/-- The parts of a text that fits from its beginning to its end. -/
def captures (pattern : Pattern) (text : List Char) : Option Parts :=
  pattern.first (fun parts rest => if rest = [] then some parts else none) [] text

/-! ## Runs that end by themselves -/

variable {α : Type} {p : Char → Bool} {k : Parts → List Char → Option α}

/-- Nothing is made of a text that begins with a character of a class. -/
def Refuses (p : Char → Bool) (k : Parts → List Char → Option α) : Prop :=
  ∀ parts c text, p c = true → k parts (c :: text) = none

/-- If what follows cannot begin with a character of its class, the longest run is the
only one that fits. -/
theorem greedy_eq {k : List Char → Option α} (h : ∀ c text, p c = true → k (c :: text) = none)
    (text : List Char) : greedy p k text = k (text.dropWhile p) := by
  induction text with
  | nil => rfl
  | cons c text ih =>
    by_cases hc : p c = true
    · rw [greedy, if_pos hc, ih, h c text hc, Option.or_none, List.dropWhile_cons_of_pos hc]
    · rw [greedy, if_neg hc, List.dropWhile_cons_of_neg hc]

theorem first_several (h : Refuses p k) (parts : Parts) (text : List Char) :
    (several p).first k parts text =
      if text.takeWhile p = [] then none else k parts (text.dropWhile p) := by
  rcases text with _ | ⟨c, text⟩
  · rfl
  by_cases hc : p c = true
  · simp [several, first, hc, greedy_eq (h parts)]
  · simp [several, first, hc]

/-- What is taken is what is not left. -/
theorem take_of_append {text word rest : List Char} (h : text = word ++ rest) :
    text.take (text.length - rest.length) = word := by
  simp [h]

theorem take_dropWhile (text : List Char) :
    text.take (text.length - (text.dropWhile p).length) = text.takeWhile p :=
  take_of_append List.takeWhile_append_dropWhile.symm

/-- So a part that is a run is the longest one there is. -/
theorem first_part_several (h : Refuses p k) (name : Part) (parts : Parts) (text : List Char) :
    (part name (several p)).first k parts text =
      if text.takeWhile p = [] then none
      else k ((name, text.takeWhile p) :: parts) (text.dropWhile p) := by
  rw [first, first_several, take_dropWhile]
  exact fun parts c rest hc => h _ c rest hc

theorem first_part_many (h : Refuses p k) (name : Part) (parts : Parts) (text : List Char) :
    (part name (many p)).first k parts text =
      k ((name, text.takeWhile p) :: parts) (text.dropWhile p) := by
  rw [first, first, greedy_eq, take_dropWhile]
  exact fun c rest hc => h _ c rest hc

/-- A sign is taken where it stands, and nowhere else. -/
theorem first_sign (c : Char) (parts : Parts) (text : List Char) :
    (word [c]).first k parts text = if text.head? = some c then k parts text.tail else none := by
  rcases text with _ | ⟨d, text⟩
  · rfl
  · by_cases hd : c = d
    · simp [first, hd]
    · simp [first, hd, Ne.symm hd]

theorem refuses_word {c : Char} (hc : p c = false) (w : List Char) :
    Refuses p ((word (c :: w)).first k) := by
  rintro parts d text hd
  have hne : c ≠ d := by
    rintro rfl
    rw [hc] at hd
    cases hd
  simp [first, hne]

end Pattern

namespace ProxyUrl

open Pattern

/-! ## The pattern of proxies -/

/-- A scheme and `://`. -/
def schemePattern : Pattern :=
  seq (part .scheme (seq (one isSchemeStart) (many isSchemeChar))) (word [':', '/', '/'])

/-- A user name, a colon, a password and `@`. -/
def credentialsPattern : Pattern :=
  seq (part .user (several isUserChar)) (seq (word [':'])
    (seq (part .password (many isPasswordChar)) (word ['@'])))

/-- A run of word characters, dots and hyphens, or anything in square brackets. -/
def hostPattern : Pattern :=
  part .host (either (several isHostChar)
    (seq (word ['[']) (seq (several (· ≠ ']')) (word [']']))))

/-- A colon and digits, with or without a slash. -/
def portPattern : Pattern :=
  seq (word [':']) (seq (part .port (several Text.isDigit)) (maybe (word ['/'])))

/-- `[scheme://][user:password@]host:port[/]`. -/
def pattern : Pattern :=
  seq (maybe schemePattern) (seq (maybe credentialsPattern) (seq hostPattern portPattern))

/-- Credentials, host and port, behind the parts that were there before. -/
def userAuthorityParts (parts : Parts) : Option Credentials × List Char × List Char → Parts
  | (none, host, port) => (.port, port) :: (.host, host) :: parts
  | (some c, host, port) => (.port, port) :: (.host, host) ::
    (.password, c.password.toList) :: (.user, c.username.toList) :: parts

/-- A scheme is a part if there is one. -/
def schemeParts : Option (List Char) → Parts
  | none => []
  | some scheme => [(.scheme, scheme)]

/-- The parts that the reader takes out of a text. -/
def readParts (text : List Char) : Option Parts :=
  (readUserAuthority (splitScheme text).2).map
    (userAuthorityParts (schemeParts (splitScheme text).1))

/-! ## What is made of each part -/

/-- What is made of the end of a text. -/
def final (parts : Parts) (rest : List Char) : Option Parts :=
  if rest = [] then some parts else none

/-- A text ends here, or with one slash. -/
theorem first_slash (parts : Parts) (rest : List Char) :
    (maybe (word ['/'])).first final parts rest =
      if rest = [] ∨ rest = ['/'] then some parts else none := by
  rcases rest with _ | ⟨c, rest⟩
  · rfl
  by_cases hc : c = '/'
  · subst hc
    simp [first, final]
  · simp [first, final, hc, Ne.symm hc]

theorem first_portPattern (parts : Parts) (text : List Char) :
    portPattern.first final parts text =
      (readPort text).map fun port => (.port, port) :: parts := by
  have hrefuses : Refuses Text.isDigit ((maybe (word ['/'])).first final) := by
    intro parts c rest hc
    have hslash : c ≠ '/' := by
      rintro rfl
      exact absurd hc (by decide)
    rw [first_slash, if_neg]
    simp [hslash]
  rcases text with _ | ⟨c, text⟩
  · rfl
  by_cases hc : c = ':'
  · subst hc
    have hport : portPattern.first final parts (':' :: text) =
        (part .port (several Text.isDigit)).first ((maybe (word ['/'])).first final) parts text :=
      rfl
    rw [hport, first_part_several hrefuses, first_slash, readPort]
    rcases text.takeWhile Text.isDigit with _ | ⟨d, port⟩
    · simp
    · rcases text.dropWhile Text.isDigit with _ | ⟨e, _ | ⟨f, rest⟩⟩
      · simp
      · by_cases he : e = '/' <;> simp [he]
      · simp
  · simp [portPattern, first, readPort, hc, Ne.symm hc]

theorem first_hostPattern {k : Parts → List Char → Option Parts} (h : Refuses isHostChar k)
    (parts : Parts) (text : List Char) :
    hostPattern.first k parts text =
      (readHost text).bind fun (host, rest) => k ((.host, host) :: parts) rest := by
  by_cases hopen : text.head? = some '['
  · -- no run of word characters begins with a bracket, so the second alternative is taken
    obtain ⟨text, rfl⟩ := List.head?_eq_some_iff.1 hopen
    have hname : isHostChar '[' = false := by decide
    have hrefuses : ∀ k' : Parts → List Char → Option Parts,
        Refuses (fun c => decide (c ≠ ']')) ((word [']']).first k') :=
      fun _ => refuses_word (by decide) []
    have hsecond : hostPattern.first k parts ('[' :: text) =
        if text.takeWhile (· ≠ ']') = [] then none
        else (word [']']).first (fun parts' rest =>
          k ((.host, ('[' :: text).take (('[' :: text).length - rest.length)) :: parts') rest) parts
            (text.dropWhile (· ≠ ']')) := by
      rw [← first_several (hrefuses _)]
      simp [hostPattern, first, several, hname]
    by_cases hclose : ']' ∈ text
    · obtain ⟨inside, rest, rfl, hinside⟩ := List.eq_append_cons_of_mem hclose
      obtain ⟨htake, hdrop⟩ := takeWhile_ne hinside rest
      have htaken : ('[' :: (inside ++ ']' :: rest)).take
          (('[' :: (inside ++ ']' :: rest)).length - rest.length) = '[' :: (inside ++ [']']) :=
        take_of_append (by simp)
      rw [hsecond, htake, hdrop, readHost_closed hinside]
      by_cases hnil : inside = []
      · rw [if_pos hnil, if_pos hnil]
        rfl
      · rw [if_neg hnil, if_neg hnil, Option.bind_some, ← htaken]
        rfl
    · rw [hsecond, dropWhile_ne_of_notMem hclose, readHost_unclosed hclose]
      split <;> rfl
  · have hbracket : ∀ k' : Parts → List Char → Option Parts, (seq (word ['['])
        (seq (several (· ≠ ']')) (word [']']))).first k' parts text = none := by
      intro k'
      rcases text with _ | ⟨c, text⟩
      · rfl
      · have hc : '[' ≠ c := fun h => hopen (by rw [h]; rfl)
        simp [first, hc]
    have hname : hostPattern.first k parts text =
        (part .host (several isHostChar)).first k parts text :=
      (congrArg (Option.or _) (hbracket _)).trans (Option.or_none ..)
    rw [hname, first_part_several h, readHost_of_ne hopen]
    split <;> rfl

theorem first_authority (parts : Parts) (text : List Char) :
    (seq hostPattern portPattern).first final parts text =
      (readAuthority text).map fun (host, port) => (.port, port) :: (.host, host) :: parts := by
  have hrefuses : Refuses isHostChar (portPattern.first final) := refuses_word (by decide) []
  rw [first, first_hostPattern hrefuses, readAuthority]
  rcases readHost text with _ | ⟨host, rest⟩
  · rfl
  · simp only [Option.bind_some, first_portPattern, Option.bind_eq_bind]
    cases readPort rest <;> rfl

theorem first_credentialsPattern (k : Parts → List Char → Option Parts) (parts : Parts)
    (text : List Char) : credentialsPattern.first k parts text =
      (readCredentials text).bind fun (c, rest) =>
        k ((.password, c.password.toList) :: (.user, c.username.toList) :: parts) rest := by
  have hcolon : Refuses isUserChar ((seq (word [':'])
      (seq (part .password (many isPasswordChar)) (word ['@']))).first k) :=
    refuses_word (by decide) []
  have hat : Refuses isPasswordChar ((word ['@']).first k) := refuses_word (by decide) []
  have huser := first_part_several hcolon .user parts text
  have hpassword := first_part_many hat .password
  rw [credentialsPattern, first, huser, readCredentials]
  rcases text.takeWhile isUserChar with _ | ⟨d, user⟩
  · rfl
  rw [if_neg (List.cons_ne_nil d user), first, first_sign]
  rcases text.dropWhile isUserChar with _ | ⟨c, rest⟩
  · rfl
  by_cases hc : c = ':'
  · subst hc
    rw [first]
    simp only [List.head?_cons, if_true, List.tail_cons, hpassword, first_sign]
    rcases rest.dropWhile isPasswordChar with _ | ⟨e, after⟩
    · rfl
    by_cases he : e = '@'
    · simp [he]
    · simp [he]
  · simp [hc]

/-- Behind a scheme, `://` is taken where it stands. -/
theorem first_separator (k : Parts → List Char → Option Parts) (parts : Parts) (text : List Char) :
    (word [':', '/', '/']).first k parts text =
      match text with
      | ':' :: '/' :: '/' :: rest => k parts rest
      | _ => none := by
  split
  · rfl
  · rename_i hne
    have hprefix : ¬ [':', '/', '/'] <+: text := by
      rintro ⟨rest, rfl⟩
      exact hne rest rfl
    rw [first, if_neg]
    rwa [List.isPrefixOf_iff_prefix]

theorem first_schemePattern (k : Parts → List Char → Option Parts) (parts : Parts)
    (text : List Char) : schemePattern.first k parts text =
      (readScheme text).bind fun (scheme, rest) => k ((.scheme, scheme) :: parts) rest := by
  have hrefuses : Refuses isSchemeChar ((word [':', '/', '/']).first k) :=
    refuses_word (by decide) _
  rcases text with _ | ⟨c, text⟩
  · rfl
  by_cases hstart : isSchemeStart c = true
  · -- the letter and the run behind it are the scheme
    have hchar := isSchemeChar_of_isSchemeStart hstart
    have htaken : (c :: text).take ((c :: text).length - (text.dropWhile isSchemeChar).length) =
        c :: text.takeWhile isSchemeChar :=
      take_of_append (by rw [List.cons_append, List.takeWhile_append_dropWhile])
    have hfirst : schemePattern.first k parts (c :: text) =
        (word [':', '/', '/']).first k ((.scheme, c :: text.takeWhile isSchemeChar) :: parts)
          (text.dropWhile isSchemeChar) := by
      simp only [schemePattern, first, hstart, if_true]
      rw [greedy_eq, htaken]
      exact fun d rest hd => hrefuses _ d rest hd
    rw [hfirst, first_separator, readScheme, List.takeWhile_cons_of_pos hchar,
      List.dropWhile_cons_of_pos hchar]
    split
    · rename_i after hbehind
      simp only [hbehind, hstart, if_true, Option.bind_some]
    · rename_i hbehind
      split
      · rename_i heq hmore
        exact absurd hmore (hbehind _)
      · rfl
  · have hfirst : schemePattern.first k parts (c :: text) = none := by
      simp [schemePattern, first, hstart]
    have hread : readScheme (c :: text) = none := by
      rw [Option.eq_none_iff_forall_ne_some]
      rintro ⟨scheme, rest⟩ h
      obtain ⟨htext, ⟨d, hhead, hd⟩, _⟩ := readScheme_eq_some_iff.1 h
      obtain ⟨word, rfl⟩ := List.head?_eq_some_iff.1 hhead
      cases htext
      exact hstart hd
    rw [hfirst, hread]
    rfl

/-- A text with a scheme has no reading without it. -/
theorem readUserAuthority_of_readScheme {text scheme rest : List Char}
    (h : readScheme text = some (scheme, rest)) : readUserAuthority text = none := by
  obtain ⟨rfl, ⟨c, hhead, hstart⟩, hall⟩ := readScheme_eq_some_iff.1 h
  have hcolon : ':' ∉ scheme := fun hmem => absurd (hall ':' hmem) (by decide)
  have huser : readCredentials (scheme ++ ':' :: '/' :: '/' :: rest) = none := by
    rw [Option.eq_none_iff_forall_ne_some]
    rintro ⟨c, after⟩ hread
    obtain ⟨htext, hwritable⟩ := readCredentials_eq_some_iff.1 hread
    have hsplit : scheme ++ ':' :: '/' :: '/' :: rest =
        c.username.toList ++ ':' :: (c.password.toList ++ '@' :: after) := by
      simpa [writeCredentials] using htext
    have hbehind := (append_colon_inj hcolon
      (fun hmem => (hwritable.username ':' hmem).1 rfl) hsplit).2
    -- the scheme would be the user name, and a password cannot begin with a slash
    rcases hpassword : c.password.toList with _ | ⟨d, password⟩
    · simp [hpassword] at hbehind
    · rw [hpassword] at hbehind
      obtain ⟨rfl, _⟩ := List.cons.inj hbehind
      exact (hwritable.password '/' (by simp [hpassword])).2 rfl
  have hhost : readAuthority (scheme ++ ':' :: '/' :: '/' :: rest) = none := by
    rw [Option.eq_none_iff_forall_ne_some]
    rintro ⟨host, port⟩ hread
    obtain ⟨⟨slash, htext⟩, hform, hport⟩ := readAuthority_eq_some_iff.1 hread
    rcases hform with hname | ⟨inside, _, _, rfl⟩
    · -- the scheme would be the host, and a port cannot begin with a slash
      have hbehind := (append_colon_inj hcolon (hname.sign_notMem ':' (by decide)) htext).2
      obtain ⟨d, digits, rfl⟩ := List.exists_cons_of_ne_nil hport.1
      obtain ⟨rfl, _⟩ := List.cons.inj hbehind
      exact absurd (hport.2 '/' List.mem_cons_self) (by decide)
    · -- a scheme begins with no bracket
      obtain ⟨word, rfl⟩ := List.head?_eq_some_iff.1 hhead
      obtain ⟨rfl, _⟩ := List.cons.inj htext
      exact absurd hstart (by decide)
  rw [readUserAuthority, huser, hhost]
  rfl

/-- Credentials are there if they can be and a host and a port follow them. -/
theorem first_userAuthority (parts : Parts) (text : List Char) :
    (seq (maybe credentialsPattern) (seq hostPattern portPattern)).first final parts text =
      (readUserAuthority text).map (userAuthorityParts parts) := by
  have hchoice : (seq (maybe credentialsPattern) (seq hostPattern portPattern)).first final parts
      text = (credentialsPattern.first ((seq hostPattern portPattern).first final) parts text).or
        ((seq hostPattern portPattern).first final parts text) := rfl
  rw [hchoice, first_credentialsPattern, first_authority, readUserAuthority, Option.map_or]
  congr 1
  · rcases readCredentials text with _ | ⟨c, rest⟩
    · rfl
    · simp only [Option.bind_some, first_authority, Option.map_map]
      rfl
  · rw [Option.map_map]
    rfl

/-- **The reader takes out of a text what its pattern does.** -/
theorem captures_eq (text : List Char) : pattern.captures text = readParts text := by
  have hchoice : pattern.captures text =
      (schemePattern.first ((seq (maybe credentialsPattern) (seq hostPattern portPattern)).first
        final) [] text).or
      ((seq (maybe credentialsPattern) (seq hostPattern portPattern)).first final [] text) := rfl
  rw [hchoice, first_schemePattern, readParts, splitScheme]
  rcases hscheme : readScheme text with _ | ⟨scheme, rest⟩
  · simp [first_userAuthority, schemeParts]
  · simp only [Option.bind_some, first_userAuthority, readUserAuthority_of_readScheme hscheme,
      Option.map_none, Option.or_none]
    rfl

/-! ## The proxy that the parts name -/

/-- Credentials are there if both of their parts are. -/
def credentialsOf (parts : Parts) : Option Credentials :=
  match parts.lookup .user, parts.lookup .password with
  | some user, some password => some ⟨String.ofList user, String.ofList password⟩
  | _, _ => none

/-- What the parts of a text name. -/
def ofParts (parts : Parts) : Except AddressError ProxyUrl := do
  let kind ← kindOf (parts.lookup .scheme)
  match parts.lookup .host, parts.lookup .port with
  | some host, some port =>
    match Destination.ofChars? (host ++ ':' :: port) with
    | some address => .ok ⟨kind, address, credentialsOf parts⟩
    | none => .error .invalid
  | _, _ => .error .invalid

/-- Each part is found under its name. -/
theorem lookup_userAuthorityParts (scheme : Option (List Char)) (credentials : Option Credentials)
    (host port : List Char) :
    let parts := userAuthorityParts (schemeParts scheme) (credentials, host, port)
    parts.lookup .scheme = scheme ∧ credentialsOf parts = credentials ∧
      parts.lookup .host = some host ∧ parts.lookup .port = some port := by
  have hwhole : ∀ c : Credentials,
      (⟨String.ofList c.username.toList, String.ofList c.password.toList⟩ : Credentials) = c := by
    simp
  cases scheme with
  | none =>
    cases credentials with
    | none => exact ⟨rfl, rfl, rfl, rfl⟩
    | some c => exact ⟨rfl, congrArg some (hwhole c), rfl, rfl⟩
  | some scheme =>
    cases credentials with
    | none => exact ⟨rfl, rfl, rfl, rfl⟩
    | some c => exact ⟨rfl, congrArg some (hwhole c), rfl, rfl⟩

/-- **A text names what its parts name**, and nothing if it does not fit. -/
theorem parse_eq (text : String) :
    parse text = (pattern.captures text.toList).elim (.error .invalid) ofParts := by
  rw [captures_eq, parse, readParts]
  rcases splitScheme text.toList with ⟨scheme, rest⟩
  dsimp only
  rcases readUserAuthority rest with _ | ⟨credentials, host, port⟩
  · rfl
  · obtain ⟨hscheme, hcredentials, hhost, hport⟩ :=
      lookup_userAuthorityParts scheme credentials host port
    rewrite [Option.map_some, Option.elim_some, ofParts, hscheme, hcredentials, hhost, hport]
    rfl

/-- The host and the port of a text that fits have the forms that are asked for. -/
theorem forms_of_captures {text : List Char} {parts : Parts}
    (h : pattern.captures text = some parts) : ∃ host port, parts.lookup .host = some host ∧
      parts.lookup .port = some port ∧ (IsName host ∨ IsBracketed host) ∧ IsPort port := by
  rw [captures_eq, readParts] at h
  obtain ⟨⟨credentials, host, port⟩, hread, rfl⟩ := Option.map_eq_some_iff.1 h
  have hauthority : ∃ rest, readAuthority rest = some (host, port) := by
    rcases Option.or_eq_some_iff.1 hread with hafter | ⟨_, hwhole⟩
    · obtain ⟨⟨c, rest⟩, _, hmap⟩ := Option.bind_eq_some_iff.1 hafter
      obtain ⟨_, hrest, hpair⟩ := Option.map_eq_some_iff.1 hmap
      cases hpair
      exact ⟨rest, hrest⟩
    · obtain ⟨_, hrest, hpair⟩ := Option.map_eq_some_iff.1 hwhole
      cases hpair
      exact ⟨_, hrest⟩
  obtain ⟨rest, hrest⟩ := hauthority
  obtain ⟨_, hform, hdigits⟩ := readAuthority_eq_some_iff.1 hrest
  obtain ⟨_, _, hhost, hport⟩ :=
    lookup_userAuthorityParts (splitScheme text).1 credentials host port
  exact ⟨host, port, hhost, hport, hform, hdigits⟩

end ProxyUrl

end ProxyTunnel
