/-
Messages are read back item by item.

A message only grows, and only by whole items (`Item.Appends`): a call appends as
many bytes as it says, or refuses its item and appends none. The only item that is
ever refused is a counted text of more than 255 bytes. Characters are counted
before bytes, but a text has no more characters than bytes in either encoding, so
that check refuses no text that would have fitted.

A reader knows the types and orders of the integers and which texts were taken.
No item needs anything else to be read off the front of a stream
(`Item.read_field`), and so all of them are, one after the other
(`Item.messages_read_back`).
-/
import ProxyTunnel.Wire.Item

set_option autoImplicit false

namespace ProxyTunnel

namespace Item

/-! ## What a reader knows -/

/-- What is known of an item that is to be read. A text that stands alone does not
tell where it ends, so its size must be known. -/
inductive Field where
  | integer (type : IntType) (order : ByteOrder)
  | text (size : Nat)
  | counted

/-- What an item is read as. -/
inductive Value where
  | integer (value : Int)
  | text (bytes : Bytes)
  deriving DecidableEq

/-- Reads one item at the start of a byte string, and returns the bytes after it. -/
def Field.read : Field → Bytes → Option (Value × Bytes)
  | integer type order, bytes => (type.read order bytes).map fun (n, rest) => (.integer n, rest)
  | text size, bytes =>
    if bytes.length < size then none else some (.text (bytes.take size), bytes.drop size)
  | counted, bytes => (readCounted bytes).map fun (content, rest) => (.text content, rest)

/-- Reads one item after the other. -/
def readAll : List Field → Bytes → Option (List Value × Bytes)
  | [], bytes => some ([], bytes)
  | field :: fields, bytes =>
    match field.read bytes with
    | none => none
    | some (value, rest) => (readAll fields rest).map fun (values, rest) => (value :: values, rest)

/-- What a reader must know of this item. -/
def field : Item → Field
  | integer type order _ => .integer type order
  | text charset content => .text (charset.encode content).length
  | counted _ _ => .counted

/-- What a reader should get. -/
def value : Item → Value
  | integer _ _ n => .integer n
  | text charset content => .text (charset.encode content)
  | counted charset content => .text (charset.encode content)

/-- An integer is a value of its type. -/
def IsHeld : Item → Prop
  | integer type _ n => type.Holds n
  | text _ _ => True
  | counted _ _ => True

/-- **An item is read off the front of whatever begins with its bytes.** -/
theorem read_field {item : Item} (hheld : item.IsHeld) {bytes : Bytes}
    (h : item.encode = .ok bytes) (rest : Bytes) :
    item.field.read (bytes ++ rest) = some (item.value, rest) := by
  cases item with
  | integer type order n =>
    cases h
    rw [field, Field.read, IntType.read_encode hheld]
    rfl
  | text charset content =>
    cases h
    have hlong : ¬ (charset.encode content ++ rest).length < (charset.encode content).length := by
      rw [List.length_append]
      omega
    rw [field, Field.read, if_neg hlong, List.take_left, List.drop_left]
    rfl
  | counted charset content =>
    rw [field, Field.read, readCounted_append h]
    rfl

/-! ## One call -/

/-- A call appends these bytes to a message. -/
structure Appends (message : Bytes) (item : Item) (added : Bytes) : Prop where
  later : (append message item).2 = message ++ added
  /-- The call returns how many bytes it appended. -/
  count : ∀ n, (append message item).1 = .ok n → n = added.length
  /-- Or it fails because of a size, and appends nothing. -/
  refused : ∀ e, (append message item).1 = .error e → added = [] ∧ ∃ size, e = .tooLarge size
  /-- It succeeds exactly if the item is no counted text of more than 255 bytes. -/
  succeeds : (∃ n, (append message item).1 = .ok n) ↔
    ∀ charset content, item = .counted charset content → (charset.encode content).length ≤ 255
  /-- A counted text is its length in one byte, and its encoding. -/
  counted : ∀ charset content, item = .counted charset content →
    (charset.encode content).length ≤ 255 →
      added = UInt8.ofNat (charset.encode content).length :: charset.encode content
  /-- A text is its encoding. -/
  text : ∀ charset content, item = .text charset content → added = charset.encode content
  /-- An integer takes the width of its type. -/
  integer : ∀ type order n, item = .integer type order n →
    added = type.encode order n ∧ added.length = type.width

/-- **A counted text is refused for its bytes only**: the characters of a text that
fits are never too many. -/
theorem encode_counted_cases (charset : Charset) (content : String) :
    ((charset.encode content).length ≤ 255 ∧ (counted charset content).encode =
      .ok (UInt8.ofNat (charset.encode content).length :: charset.encode content)) ∨
    255 < (charset.encode content).length ∧
      ∃ size, (counted charset content).encode = .error (.tooLarge size) := by
  have hchars := charset.length_le_length_encode content
  simp only [encode, encodeCounted, maxCount]
  by_cases hlong : 255 < content.length
  · exact .inr ⟨by omega, content.length, if_pos hlong⟩
  · by_cases hbytes : 255 < (charset.encode content).length
    · exact .inr ⟨hbytes, _, (if_neg hlong).trans (if_pos hbytes)⟩
    · exact .inl ⟨Nat.le_of_not_lt hbytes, (if_neg hlong).trans (if_neg hbytes)⟩

theorem appends_of_ok {item : Item} {bytes : Bytes} (h : item.encode = .ok bytes)
    (message : Bytes) : Appends message item bytes := by
  have hcall : append message item = _ := append_of_ok h
  refine ⟨by rw [hcall], ?_, ?_, ⟨?_, fun _ => ⟨_, congrArg Prod.fst hcall⟩⟩, ?_, ?_, ?_⟩
  · intro n hn
    rw [hcall] at hn
    exact (Except.ok.inj hn).symm
  · intro e he
    rw [hcall] at he
    cases he
  · rintro _ charset content rfl
    obtain ⟨hfits, _⟩ | ⟨_, size, hrefused⟩ := encode_counted_cases charset content
    · exact hfits
    · rw [h] at hrefused
      cases hrefused
  · rintro charset content rfl hfits
    obtain ⟨_, hencode⟩ | ⟨hlong, _⟩ := encode_counted_cases charset content
    · exact Except.ok.inj (h.symm.trans hencode)
    · omega
  · rintro charset content rfl
    exact (Except.ok.inj h).symm
  · rintro type order n rfl
    cases h
    exact ⟨rfl, IntType.length_encode ..⟩

theorem appends_of_error {item : Item} {e : WireError} (h : item.encode = .error e)
    (message : Bytes) : Appends message item [] := by
  have hcall : append message item = _ := append_of_error h
  cases item with
  | integer => cases h
  | text => cases h
  | counted charset content =>
    obtain ⟨_, hencode⟩ | ⟨hlong, size, hrefused⟩ := encode_counted_cases charset content
    · rw [h] at hencode
      cases hencode
    · obtain rfl : e = .tooLarge size := Except.error.inj (h.symm.trans hrefused)
      refine ⟨by rw [hcall, List.append_nil], ?_, ?_, ⟨?_, ?_⟩, ?_, nofun, nofun⟩
      · intro n hn
        rw [hcall] at hn
        cases hn
      · intro e he
        rw [hcall] at he
        exact ⟨rfl, size, (Except.error.inj he).symm⟩
      · rintro ⟨n, hn⟩
        rw [hcall] at hn
        cases hn
      · intro hfits
        have := hfits charset content rfl
        omega
      · rintro _ _ ⟨⟩ hfits
        omega

/-- Every call appends the bytes of its item, or none. -/
theorem appends (message : Bytes) (item : Item) : ∃ added, Appends message item added := by
  cases hencode : item.encode with
  | ok bytes => exact ⟨bytes, appends_of_ok hencode message⟩
  | error e => exact ⟨[], appends_of_error hencode message⟩

/-! ## A row of calls -/

/-- Appends items to a message, one call after the other. -/
def appendAll (message : Bytes) (items : List Item) : Bytes :=
  items.foldl (fun message item => (append message item).2) message

/-- The items whose calls succeed. -/
def taken : Bytes → List Item → List Item
  | _, [] => []
  | message, item :: items =>
    match append message item with
    | (.ok _, later) => item :: taken later items
    | (.error _, later) => taken later items

/-- **What is appended to a message can be read back.** For every message and every
row of items that is appended to it:

* each call, wherever it stands in the row, leaves the message that it finds as it
  is and appends its whole item or nothing (`Appends`);
* whoever knows the types and orders of the integers, and which texts were taken,
  reads all integers and the bytes of all texts off what was appended, and is left
  with what follows it, be it nothing. -/
theorem messages_read_back (message : Bytes) (items : List Item) :
    (∀ before item after, items = before ++ item :: after →
      ∃ added, Appends (appendAll message before) item added) ∧
    ∃ added, appendAll message items = message ++ added ∧
      ((∀ item ∈ items, item.IsHeld) → ∀ rest,
        readAll ((taken message items).map field) (added ++ rest) =
          some ((taken message items).map value, rest)) := by
  refine ⟨fun before item _ _ => appends _ item, ?_⟩
  induction items generalizing message with
  | nil => exact ⟨[], (List.append_nil _).symm, fun _ _ => rfl⟩
  | cons item items ih =>
    cases hencode : item.encode with
    | error e =>
      -- neither the message nor what a reader knows is any different
      have hcall : append message item = _ := append_of_error hencode
      rw [appendAll, List.foldl_cons, taken, hcall]
      obtain ⟨added, hadded, hread⟩ := ih message
      exact ⟨added, hadded, fun hheld => hread fun i hi => hheld i (List.mem_cons_of_mem _ hi)⟩
    | ok bytes =>
      have hcall : append message item = _ := append_of_ok hencode
      rw [appendAll, List.foldl_cons, taken, hcall]
      obtain ⟨added, hadded, hread⟩ := ih (message ++ bytes)
      refine ⟨bytes ++ added, hadded.trans (List.append_assoc ..), fun hheld rest => ?_⟩
      have hfirst := read_field (hheld item List.mem_cons_self) hencode (added ++ rest)
      have hothers := hread (fun i hi => hheld i (List.mem_cons_of_mem _ hi)) rest
      dsimp only
      rw [List.map_cons, List.map_cons, readAll, List.append_assoc, hfirst]
      dsimp only
      rw [hothers]
      rfl

/-- The character outside ASCII is read back as the byte that was written for it. -/
example :
    appendAll [0xAA] [.integer .i16 .little (-2), .counted .ascii "né", .integer .u8 .big 7] =
        [0xAA, 0xFE, 0xFF, 2, 0x6E, 0x3F, 7] ∧
      readAll [.integer .i16 .little, .counted, .integer .u8 .big] [0xFE, 0xFF, 2, 0x6E, 0x3F, 7] =
        some ([.integer (-2), .text [0x6E, 0x3F], .integer 7], []) := by
  decide +kernel

end Item

end ProxyTunnel
