/-
IPv6 addresses: eight groups of sixteen bits.

Written, the first of the longest runs of at least two zero groups becomes
`::`, the other groups are hexadecimal without leading zeros, and an address
that embeds an IPv4 address (`::ffff:0:0/96`) shows it in dotted form.

Read, a group has one to four digits of either case, `::` stands for one or
more zero groups and may occur once, and a dotted IPv4 address may stand for
the last two groups, unless `::` follows it.
-/
import ProxyTunnel.Address.Ip4

set_option autoImplicit false

namespace ProxyTunnel

/-- An IPv6 address. -/
structure Ip6 where
  groups : List UInt16
  length_groups : groups.length = 8
  deriving DecidableEq

namespace Ip6

/-- The address with the given groups, if there are eight. -/
def ofGroups? (groups : List UInt16) : Option Ip6 :=
  if h : groups.length = 8 then some ⟨groups, h⟩ else none

/-- The octets in network order. -/
def octets (ip : Ip6) : Bytes :=
  ip.groups.flatMap fun g => BigEndian.ofNat 2 g.toNat

/-- Groups of two octets each. -/
def pairUp : Bytes → List UInt16
  | high :: low :: rest => UInt16.ofNat (BigEndian.toNat [high, low]) :: pairUp rest
  | _ => []

/-- The address with the given octets, if there are sixteen. -/
def ofOctets? (octets : Bytes) : Option Ip6 :=
  if octets.length = 16 then ofGroups? (pairUp octets) else none

/-! ## Writing -/

/-- A group in hexadecimal, without leading zeros. -/
def writeGroup (g : UInt16) : List Char := Nat.toDigits 16 g.toNat

/-- Groups with colons between them. -/
def writeGroups : List UInt16 → List Char
  | [] => []
  | [g] => writeGroup g
  | g :: groups => writeGroup g ++ ':' :: writeGroups groups

/-- How many zero groups a list begins with. -/
def leadingZeros (groups : List UInt16) : Nat :=
  (groups.takeWhile (· = 0)).length

/-- Start and length of the first longest run of zero groups, searched from the
end: an earlier run wins if it is at least as long. -/
def longestZeros : List UInt16 → Nat × Nat
  | [] => (0, 0)
  | g :: groups =>
    let here := leadingZeros (g :: groups)
    let later := longestZeros groups
    if later.2 ≤ here then (0, here) else (later.1 + 1, later.2)

/-- The IPv4 address that an address of the block `::ffff:0:0/96` embeds. -/
def mapped? (ip : Ip6) : Option Ip4 :=
  match ip.groups with
  | [0, 0, 0, 0, 0, 0xFFFF, _, _] => Ip4.ofOctets? (ip.octets.drop 12)
  | _ => none

/-- What stands for a run of zero groups. -/
def gap : List Char := [':', ':']

/-- What an embedded IPv4 address stands behind. -/
def mappedStart : List Char := [':', ':', 'f', 'f', 'f', 'f', ':']

/-- The characters of the written form. -/
def write (ip : Ip6) : List Char :=
  match ip.mapped? with
  | some ip4 => mappedStart ++ ip4.write
  | none =>
    let run := longestZeros ip.groups
    if run.2 < 2 then writeGroups ip.groups
    else writeGroups (ip.groups.take run.1) ++ gap ++ writeGroups (ip.groups.drop (run.1 + run.2))

/-- The written form. -/
def text (ip : Ip6) : String := String.ofList ip.write

/-! ## Reading -/

/-- Hexadecimal digits of either case. -/
def isHexDigit (c : Char) : Bool :=
  c.isDigit || ('a' ≤ c && c ≤ 'f') || ('A' ≤ c && c ≤ 'F')

/-- The value of a hexadecimal digit. -/
def hexDigit (c : Char) : Nat :=
  if c.isDigit then c.toNat - '0'.toNat
  else if 'a' ≤ c then c.toNat - 'a'.toNat + 10
  else c.toNat - 'A'.toNat + 10

/-- The number that hexadecimal digits spell. -/
def hexValue (digits : List Char) : Nat := digits.foldl (fun n c => n * 16 + hexDigit c) 0

/-- The group a text begins with, and the text after it. -/
def readGroup (text : List Char) : Option (UInt16 × List Char) :=
  let digits := text.takeWhile isHexDigit
  if digits.length = 0 ∨ 4 < digits.length then none
  else some (UInt16.ofNat (hexValue digits), text.dropWhile isHexDigit)

/-- The two groups that a dotted address stands for. -/
def groupsOfIp4 (ip : Ip4) : List UInt16 := pairUp ip.octets

/-- A run of groups: what was read, whether a dotted address ended it, and the
text after it. -/
structure Run where
  groups : List UInt16
  dotted : Bool
  rest : List Char

/-- Steps over the colon between two groups; before the first there is none. -/
def skipColon (first : Bool) (text : List Char) : Option (List Char) :=
  if first then some text
  else match text with
    | ':' :: rest => some rest
    | _ => none

/-- Reads at most `room` groups with colons between them. A dotted address is
tried first wherever two groups have room. -/
def readGroups : (room : Nat) → (first : Bool) → List Char → Run
  | 0, _, text => ⟨[], false, text⟩
  | room + 1, first, text =>
    match skipColon first text with
    | none => ⟨[], false, text⟩
    | some body =>
      match if room = 0 then none else Ip4.read body with
      | some (ip, rest) => ⟨groupsOfIp4 ip, true, rest⟩
      | none =>
        match readGroup body with
        | none => ⟨[], false, text⟩
        | some (g, rest) =>
          let more := readGroups room false rest
          ⟨g :: more.groups, more.dotted, more.rest⟩

/-- The address a text begins with, and the text after it. -/
def read (text : List Char) : Option (Ip6 × List Char) :=
  let head := readGroups 8 true text
  if head.groups.length = 8 then (ofGroups? head.groups).map (·, head.rest)
  else if head.dotted then none
  else match head.rest with
    | ':' :: ':' :: text =>
      -- the gap stands for one group at least
      let tail := readGroups (7 - head.groups.length) true text
      let zeros := List.replicate (8 - head.groups.length - tail.groups.length) 0
      (ofGroups? (head.groups ++ zeros ++ tail.groups)).map (·, tail.rest)
    | _ => none

/-! ## Groups and octets -/

/-- Groups come in pairs of octets. -/
theorem pairUp_flatMap (groups : List UInt16) :
    pairUp (groups.flatMap fun g => BigEndian.ofNat 2 g.toNat) = groups := by
  induction groups with
  | nil => rfl
  | cons g groups ih =>
    -- two octets are taken for the first group, and the others are left
    change UInt16.ofNat (BigEndian.toNat (BigEndian.ofNat 2 g.toNat)) ::
      pairUp (groups.flatMap fun g => BigEndian.ofNat 2 g.toNat) = g :: groups
    rw [BigEndian.ofNat_toNat_pair, ih]

/-- An address has sixteen octets. -/
theorem length_octets (ip : Ip6) : ip.octets.length = 16 := by
  have hlength : ∀ groups : List UInt16,
      (groups.flatMap fun g => BigEndian.ofNat 2 g.toNat).length = 2 * groups.length := by
    intro groups
    induction groups with
    | nil => rfl
    | cons g groups ih =>
      rw [List.flatMap_cons, List.length_append, ih, BigEndian.length_ofNat, List.length_cons]
      omega
  rw [octets, hlength, ip.length_groups]

/-- The octets of an address spell that address. -/
theorem ofOctets?_octets (ip : Ip6) : ofOctets? ip.octets = some ip := by
  have hgroups : pairUp ip.octets = ip.groups := pairUp_flatMap ip.groups
  rw [ofOctets?, if_pos ip.length_octets, ofGroups?, hgroups, dif_pos ip.length_groups]

end Ip6

end ProxyTunnel
