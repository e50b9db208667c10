/-
The items a message is made of, and how a message grows by them.

An item is an integer, a text, or a text behind one byte that holds its length.
Only the last can fail, when its text has more than 255 characters or more than
255 bytes; a failed item leaves the message as it was.

A message grows in place (`Item.append`): the length of a counted text is filled
in once the text stands behind it, and a text that is too long is taken away
again. What an item comes to does not depend on the message: its bytes are
appended, or nothing is (`Item.append_eq`).
-/
import ProxyTunnel.Wire.Charset
import ProxyTunnel.Wire.Error
import ProxyTunnel.Wire.Integer

set_option autoImplicit false

namespace ProxyTunnel

/-- One item of a message. -/
inductive Item where
  | integer (type : IntType) (order : ByteOrder) (value : Int)
  | text (charset : Charset) (content : String)
  /-- The length in one byte, then the text. -/
  | counted (charset : Charset) (content : String)

namespace Item

/-- The greatest length that one byte holds. -/
def maxCount : Nat := 255

/-- A text behind its length. Characters are counted first, then bytes. -/
def encodeCounted (charset : Charset) (content : String) : Except WireError Bytes :=
  let bytes := charset.encode content
  if maxCount < content.length then .error (.tooLarge content.length)
  else if maxCount < bytes.length then .error (.tooLarge bytes.length)
  else .ok (UInt8.ofNat bytes.length :: bytes)

/-- The bytes of an item. -/
def encode : Item → Except WireError Bytes
  | integer type order value => .ok (type.encode order value)
  | text charset content => .ok (charset.encode content)
  | counted charset content => encodeCounted charset content

/-- Appends a text to a message, and counts its bytes. -/
def appendText (message : Bytes) (charset : Charset) (content : String) : Nat × Bytes :=
  let bytes := charset.encode content
  (bytes.length, message ++ bytes)

/-- Appends a text behind its length to a message. Only the encoding tells how long
the text is, so the byte in front of it is filled in afterwards. -/
def appendCounted (message : Bytes) (charset : Charset) (content : String) :
    Except WireError Nat × Bytes :=
  if maxCount < content.length then (.error (.tooLarge content.length), message)
  else
    let (count, later) := appendText (message ++ [0]) charset content
    if maxCount < count then (.error (.tooLarge count), later.take message.length)
    else (.ok (count + 1), later.set message.length (UInt8.ofNat count))

/-- Appends an item to a message: how many bytes it took, or why it was
refused, and the message after it. -/
def append (message : Bytes) (item : Item) : Except WireError Nat × Bytes :=
  match item with
  | integer type order value => (.ok type.width, message ++ type.encode order value)
  | text charset content =>
    let (count, later) := appendText message charset content
    (.ok count, later)
  | counted charset content => appendCounted message charset content

/-- The text bytes at the start of a byte string, behind their length, and the
bytes after them. -/
def readCounted : Bytes → Option (Bytes × Bytes)
  | [] => none
  | count :: bytes =>
    if bytes.length < count.toNat then none
    else some (bytes.take count.toNat, bytes.drop count.toNat)

/-- A text behind its length is read back, whatever follows it. -/
theorem readCounted_append {charset : Charset} {content : String} {bytes : Bytes}
    (h : encodeCounted charset content = .ok bytes) (rest : Bytes) :
    readCounted (bytes ++ rest) = some (charset.encode content, rest) := by
  simp only [encodeCounted] at h
  split at h
  · cases h
  · split at h
    · cases h
    · rename_i hb
      cases h
      have hc : (UInt8.ofNat (charset.encode content).length).toNat =
          (charset.encode content).length :=
        UInt8.toNat_ofNat_of_lt (Nat.lt_succ_of_le (Nat.le_of_not_lt hb))
      simp [readCounted, hc]

/-- **A text behind its length takes its bytes, or leaves the message alone.** -/
theorem appendCounted_eq (message : Bytes) (charset : Charset) (content : String) :
    appendCounted message charset content =
      match encodeCounted charset content with
      | .ok bytes => (.ok bytes.length, message ++ bytes)
      | .error e => (.error e, message) := by
  unfold appendCounted encodeCounted appendText
  by_cases hchars : maxCount < content.length
  · rw [if_pos hchars, if_pos hchars]
  rw [if_neg hchars, if_neg hchars]
  dsimp only
  by_cases hbytes : maxCount < (charset.encode content).length
  · -- the free byte goes as well
    rw [if_pos hbytes, if_pos hbytes, List.append_assoc, List.take_left]
  · rw [if_neg hbytes, if_neg hbytes, List.append_assoc, List.set_append_right _ _ (Nat.le_refl _),
      Nat.sub_self]
    rfl

/-- What an item takes, and what it comes to, is the same in every message. -/
theorem append_eq (message : Bytes) (item : Item) :
    append message item =
      match item.encode with
      | .ok bytes => (.ok bytes.length, message ++ bytes)
      | .error e => (.error e, message) := by
  cases item with
  | integer type order value => simp [append, encode]
  | text charset content => rfl
  | counted charset content => exact appendCounted_eq message charset content

theorem append_of_ok {message bytes : Bytes} {item : Item} (h : item.encode = .ok bytes) :
    append message item = (.ok bytes.length, message ++ bytes) := by
  rw [append_eq, h]

/-- A refused item changes nothing. -/
theorem append_of_error {message : Bytes} {item : Item} {e : WireError}
    (h : item.encode = .error e) : append message item = (.error e, message) := by
  rw [append_eq, h]

end Item

/-- The bytes of parts one after another; the first part that fails decides. -/
def concatParts : List (Except WireError Bytes) → Except WireError Bytes
  | [] => .ok []
  | .error e :: _ => .error e
  | .ok bytes :: parts => (concatParts parts).map (bytes ++ ·)

end ProxyTunnel
