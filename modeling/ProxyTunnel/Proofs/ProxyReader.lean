/-
What the readers of a proxy take out of a text.

Each reader takes one part off the front of a text. The statements say which parts
these are and what has to stand behind them, in both directions: a text that is made
of such parts is taken apart into them, and a text that is taken apart was made of
them (`ProxyUrl.readScheme_eq_some_iff`, `ProxyUrl.readCredentials_eq_some_iff`,
`ProxyUrl.readAuthority_eq_some_iff`).

The parts are told apart by the first character that cannot belong to one of them,
so all that matters of the classes of characters is which signs they leave out
(`ProxyUrl.isHostChar_sign`).
-/
import ProxyTunnel.Proofs.Brackets
import ProxyTunnel.ProxyUrl

set_option autoImplicit false

namespace ProxyTunnel

namespace ProxyUrl

/-! ## The classes of characters -/

/-- The signs that separate the parts of a text are no characters of names. -/
theorem isHostChar_sign : ∀ c ∈ [':', '@', '/', '[', ']'], isHostChar c = false := by
  have hall : ([':', '@', '/', '[', ']'].all fun c => !isHostChar c) = true := rfl
  simpa using hall

theorem isDigit_sign : ∀ c ∈ [':', '@', '/', '[', ']', '+'], Text.isDigit c = false := by
  have hall : ([':', '@', '/', '[', ']', '+'].all fun c => !Text.isDigit c) = true := rfl
  simpa using hall

theorem isUserChar_iff {c : Char} : isUserChar c = true ↔ c ≠ ':' ∧ c ≠ '@' ∧ c ≠ '/' := by
  simp [isUserChar, and_assoc]

theorem isPasswordChar_iff {c : Char} : isPasswordChar c = true ↔ c ≠ '@' ∧ c ≠ '/' := by
  simp [isPasswordChar]

theorem isSchemeChar_of_isSchemeStart {c : Char} (h : isSchemeStart c = true) :
    isSchemeChar c = true := by
  simp only [isSchemeStart] at h
  simp [isSchemeChar, Char.isAlphanum, h]

/-! ## Schemes -/

/-- A scheme is an ASCII word that begins with a letter. -/
def IsScheme (scheme : List Char) : Prop :=
  (∃ c, scheme.head? = some c ∧ isSchemeStart c = true) ∧ ∀ c ∈ scheme, isSchemeChar c = true

theorem readScheme_eq_some_iff {text scheme rest : List Char} :
    readScheme text = some (scheme, rest) ↔
      text = scheme ++ ':' :: '/' :: '/' :: rest ∧ IsScheme scheme := by
  constructor
  · intro h
    unfold readScheme at h
    split at h
    case h_2 => cases h
    rename_i c word behind htake hdrop
    split at h
    case isFalse => cases h
    rename_i hstart
    cases h
    refine ⟨?_, ⟨c, rfl, hstart⟩, ?_⟩
    · rw [← htake, ← hdrop, List.takeWhile_append_dropWhile]
    · intro d hd
      rw [← htake] at hd
      exact List.all_eq_true.1 List.all_takeWhile d hd
  · rintro ⟨rfl, ⟨c, hhead, hstart⟩, hall⟩
    obtain ⟨word, rfl⟩ := List.head?_eq_some_iff.1 hhead
    have hstops : Stops isSchemeChar (':' :: '/' :: '/' :: rest) := stops_cons (by decide) _
    rw [readScheme, takeWhile_word hall hstops, dropWhile_word hall hstops]
    simp [hstart]

/-! ## Credentials -/

/-- A user name and a password, as they stand in front of `@`. -/
def writeCredentials (c : Credentials) : List Char :=
  c.username.toList ++ ':' :: (c.password.toList ++ ['@'])

/-- Credentials that can stand in a text: the user name is not empty, and no sign in
the one or the other ends it. -/
structure Writable (c : Credentials) : Prop where
  username_ne : c.username ≠ ""
  username : ∀ d ∈ c.username.toList, d ≠ ':' ∧ d ≠ '@' ∧ d ≠ '/'
  password : ∀ d ∈ c.password.toList, d ≠ '@' ∧ d ≠ '/'

theorem readCredentials_eq_some_iff {text rest : List Char} {c : Credentials} :
    readCredentials text = some (c, rest) ↔ text = writeCredentials c ++ rest ∧ Writable c := by
  constructor
  · intro h
    unfold readCredentials at h
    split at h
    case h_2 => cases h
    rename_i d user behind htake hdrop
    split at h
    case h_2 => cases h
    rename_i after hat
    cases h
    have huser := List.all_eq_true.1 (List.all_takeWhile (p := isUserChar) (l := text))
    have hpassword := List.all_eq_true.1 (List.all_takeWhile (p := isPasswordChar) (l := behind))
    refine ⟨?_, ?_, ?_, ?_⟩
    · have hfront := List.takeWhile_append_dropWhile (p := isUserChar) (l := text)
      have hback := List.takeWhile_append_dropWhile (p := isPasswordChar) (l := behind)
      rw [htake, hdrop] at hfront
      rw [hat] at hback
      rw [writeCredentials, String.toList_ofList, String.toList_ofList, ← hfront]
      conv => lhs; rw [← hback]
      simp
    · rw [ne_eq, String.ofList_eq_empty_iff]
      exact List.cons_ne_nil _ _
    · intro e he
      rw [String.toList_ofList, ← htake] at he
      exact isUserChar_iff.1 (huser e he)
    · intro e he
      rw [String.toList_ofList] at he
      exact isPasswordChar_iff.1 (hpassword e he)
  · rintro ⟨rfl, hne, huser, hpassword⟩
    have hname : ∀ d ∈ c.username.toList, isUserChar d = true := fun d hd =>
      isUserChar_iff.2 (huser d hd)
    have hword : ∀ d ∈ c.password.toList, isPasswordChar d = true := fun d hd =>
      isPasswordChar_iff.2 (hpassword d hd)
    have hcolon : Stops isUserChar (':' :: (c.password.toList ++ '@' :: rest)) :=
      stops_cons (by decide) _
    have hat : Stops isPasswordChar ('@' :: rest) := stops_cons (by decide) _
    have htext : writeCredentials c ++ rest =
        c.username.toList ++ ':' :: (c.password.toList ++ '@' :: rest) := by
      simp [writeCredentials]
    obtain ⟨d, user, hchars⟩ := List.exists_cons_of_ne_nil (mt String.toList_eq_nil_iff.1 hne)
    have hwhole : String.ofList (d :: user) = c.username := by
      rw [← hchars, String.ofList_toList]
    rw [htext, readCredentials, takeWhile_word hname hcolon, dropWhile_word hname hcolon, hchars]
    simp only [dropWhile_word hword hat, takeWhile_word hword hat, hwhole, String.ofList_toList]

/-! ## Hosts -/

/-- A name is a run of word characters, dots and hyphens. -/
def IsName (host : List Char) : Prop := host ≠ [] ∧ ∀ c ∈ host, isHostChar c = true

theorem IsName.sign_notMem {host : List Char} (h : IsName host) :
    ∀ c ∈ [':', '@', '/', '[', ']'], c ∉ host := by
  intro c hc hmem
  have hchar := h.2 c hmem
  rw [isHostChar_sign c hc] at hchar
  cases hchar

/-- A host in brackets is any text without a closing bracket, between two brackets. -/
def IsBracketed (host : List Char) : Prop :=
  ∃ inside, inside ≠ [] ∧ ']' ∉ inside ∧ host = '[' :: (inside ++ [']'])

theorem readHost_of_ne {text : List Char} (hopen : text.head? ≠ some '[') :
    readHost text = if text.takeWhile isHostChar = [] then none
      else some (text.takeWhile isHostChar, text.dropWhile isHostChar) := by
  unfold readHost
  split
  · exact absurd rfl hopen
  · by_cases hnil : text.takeWhile isHostChar = []
    · simp [hnil]
    · simp [hnil]

theorem readHost_closed {inside : List Char} (hclose : ']' ∉ inside) (rest : List Char) :
    readHost ('[' :: (inside ++ ']' :: rest)) =
      if inside = [] then none else some ('[' :: (inside ++ [']']), rest) := by
  obtain ⟨htake, hdrop⟩ := takeWhile_ne hclose rest
  rw [readHost, htake, hdrop]
  cases inside <;> rfl

theorem dropWhile_ne_of_notMem {c : Char} {text : List Char} (h : c ∉ text) :
    text.dropWhile (· ≠ c) = [] := by
  have hall : ∀ d ∈ text, decide (d ≠ c) = true := by
    intro d hd
    rw [decide_eq_true_eq]
    rintro rfl
    exact h hd
  rw [← List.append_nil text]
  exact dropWhile_word hall fun _ => nofun

theorem readHost_unclosed {text : List Char} (hclose : ']' ∉ text) :
    readHost ('[' :: text) = none := by
  rw [readHost, dropWhile_ne_of_notMem hclose]
  cases text.takeWhile (· ≠ ']') <;> rfl

/-- A host is taken out of a text if it is a name or a text in brackets. -/
theorem readHost_cases {text host rest : List Char} (h : readHost text = some (host, rest)) :
    text = host ++ rest ∧ (IsName host ∨ IsBracketed host) := by
  by_cases hopen : text.head? = some '['
  · obtain ⟨text, rfl⟩ := List.head?_eq_some_iff.1 hopen
    by_cases hclose : ']' ∈ text
    · obtain ⟨inside, behind, rfl, hinside⟩ := List.eq_append_cons_of_mem hclose
      rw [readHost_closed hinside] at h
      split at h
      case isTrue => cases h
      rename_i hne
      cases h
      exact ⟨by simp, .inr ⟨inside, hne, hinside, rfl⟩⟩
    · rw [readHost_unclosed hclose] at h
      cases h
  · rw [readHost_of_ne hopen] at h
    split at h
    case isTrue => cases h
    rename_i hne
    cases h
    exact ⟨List.takeWhile_append_dropWhile.symm, .inl ⟨hne, List.all_eq_true.1 List.all_takeWhile⟩⟩

/-- Either is taken out if a colon stands behind it. -/
theorem readHost_append {host : List Char} (h : IsName host ∨ IsBracketed host) (rest : List Char) :
    readHost (host ++ ':' :: rest) = some (host, ':' :: rest) := by
  rcases h with ⟨hne, hall⟩ | ⟨inside, hne, hclose, rfl⟩
  · have hstops : Stops isHostChar (':' :: rest) := stops_cons (by decide) _
    have hopen : (host ++ ':' :: rest).head? ≠ some '[' := by
      obtain ⟨c, name, rfl⟩ := List.exists_cons_of_ne_nil hne
      intro h
      cases h
      exact IsName.sign_notMem ⟨hne, hall⟩ '[' (by decide) List.mem_cons_self
    rw [readHost_of_ne hopen, takeWhile_word hall hstops, dropWhile_word hall hstops, if_neg hne]
  · have htext : '[' :: (inside ++ [']']) ++ ':' :: rest =
        '[' :: (inside ++ ']' :: ':' :: rest) := by simp
    rw [htext, readHost_closed hclose, if_neg hne]

/-! ## Ports -/

/-- A port is a run of decimal digits of any script. -/
def IsPort (port : List Char) : Prop := port ≠ [] ∧ ∀ c ∈ port, Text.isDigit c = true

theorem IsPort.sign_notMem {port : List Char} (h : IsPort port) :
    ∀ c ∈ [':', '@', '/', '[', ']', '+'], c ∉ port := by
  intro c hc hmem
  have hdigit := h.2 c hmem
  rw [isDigit_sign c hc] at hdigit
  cases hdigit

/-- What may stand at the end of a text. -/
def writeSlash (slash : Bool) : List Char := if slash then ['/'] else []

theorem readPort_eq_some_iff {text port : List Char} :
    readPort text = some port ↔
      ∃ slash, text = ':' :: (port ++ writeSlash slash) ∧ IsPort port := by
  constructor
  · intro h
    unfold readPort at h
    split at h
    case h_2 => cases h
    rename_i text
    have hsplit := List.takeWhile_append_dropWhile (p := Text.isDigit) (l := text)
    have hall := List.all_eq_true.1 (List.all_takeWhile (p := Text.isDigit) (l := text))
    split at h
    · rename_i c port htake hdrop
      cases h
      rw [htake] at hall hsplit
      exact ⟨false, by rw [← hsplit, hdrop]; rfl, List.cons_ne_nil _ _, hall⟩
    · rename_i c port htake hdrop
      cases h
      rw [htake] at hall hsplit
      exact ⟨true, by rw [← hsplit, hdrop]; rfl, List.cons_ne_nil _ _, hall⟩
    · cases h
  · rintro ⟨slash, rfl, hne, hall⟩
    have hstops : Stops Text.isDigit (writeSlash slash) := by
      cases slash with
      | false => exact fun _ => nofun
      | true => exact stops_cons (by decide) _
    obtain ⟨c, digits, rfl⟩ := List.exists_cons_of_ne_nil hne
    rw [readPort, takeWhile_word hall hstops, dropWhile_word hall hstops]
    cases slash <;> rfl

/-! ## Host and port -/

/-- **What ends a text is a host, a colon, a port and perhaps a slash.** -/
theorem readAuthority_eq_some_iff {text host port : List Char} :
    readAuthority text = some (host, port) ↔
      (∃ slash, text = host ++ ':' :: (port ++ writeSlash slash)) ∧
        (IsName host ∨ IsBracketed host) ∧ IsPort port := by
  constructor
  · intro h
    obtain ⟨⟨host', rest⟩, hhost, h⟩ := Option.bind_eq_some_iff.1 h
    obtain ⟨port', hport, h⟩ := Option.bind_eq_some_iff.1 h
    cases h
    obtain ⟨rfl, hform⟩ := readHost_cases hhost
    obtain ⟨slash, rfl, hdigits⟩ := readPort_eq_some_iff.1 hport
    exact ⟨⟨slash, rfl⟩, hform, hdigits⟩
  · rintro ⟨⟨slash, rfl⟩, hform, hdigits⟩
    have hport := readPort_eq_some_iff.2 ⟨slash, rfl, hdigits⟩
    simp [readAuthority, readHost_append hform, hport]

end ProxyUrl

end ProxyTunnel
