/-
Endpoints: an IP address with a port.

An IPv4 endpoint is written `a.b.c.d:port`, an IPv6 endpoint `[address]:port`.
A scope other than zero stands after the address, as in `[fe80::1%3]:80`; flow
information is carried and never written. Ports and scopes are read from any
number of digits, leading zeros allowed, as long as the value fits.
-/
import ProxyTunnel.Address.Ip6

set_option autoImplicit false

namespace ProxyTunnel

/-- An IP address with a port. -/
inductive Endpoint where
  | ip4 (ip : Ip4) (port : UInt16)
  | ip6 (ip : Ip6) (port : UInt16) (flow scope : UInt32)
  deriving DecidableEq

namespace Endpoint

/-- The port. -/
def port : Endpoint → UInt16
  | ip4 _ port => port
  | ip6 _ port _ _ => port

/-- The octets of the address in network order. -/
def octets : Endpoint → Bytes
  | ip4 ip _ => ip.octets
  | ip6 ip _ _ _ => ip.octets

/-! ## Writing -/

/-- A colon and a port. -/
def writePort (port : UInt16) : List Char := ':' :: Decimal.write port.toNat

/-- A percent sign and a scope, nothing for the scope zero. -/
def writeScope (scope : UInt32) : List Char :=
  if scope = 0 then [] else '%' :: Decimal.write scope.toNat

/-- The characters of the written form. -/
def write : Endpoint → List Char
  | ip4 ip port => ip.write ++ writePort port
  | ip6 ip port _ scope => '[' :: ip.write ++ writeScope scope ++ ']' :: writePort port

/-- The written form. -/
def text (endpoint : Endpoint) : String := String.ofList endpoint.write

/-! ## Reading -/

/-- A colon and a port that end a text. -/
def readFinalPort : List Char → Option UInt16
  | ':' :: digits => (Decimal.read? 65535 digits).map UInt16.ofNat
  | _ => none

/-- The scope a text begins with, zero if it begins with none, and the text
after it. -/
def readScope : List Char → UInt32 × List Char
  | '%' :: text =>
    match Decimal.read? 4294967295 (text.takeWhile Char.isDigit) with
    | some n => (UInt32.ofNat n, text.dropWhile Char.isDigit)
    | none => (0, '%' :: text)
  | text => (0, text)

/-- The IPv4 endpoint a text spells. -/
def parse4? (text : List Char) : Option Endpoint := do
  let (ip, rest) ← Ip4.read text
  let port ← readFinalPort rest
  return ip4 ip port

/-- The IPv6 endpoint a text spells. -/
def parse6? : List Char → Option Endpoint
  | '[' :: text => do
    let (ip, rest) ← Ip6.read text
    match readScope rest with
    | (scope, ']' :: rest) =>
      let port ← readFinalPort rest
      return ip6 ip port 0 scope
    | _ => none
  | _ => none

/-- The endpoint a text spells. -/
def parse? (text : List Char) : Option Endpoint :=
  (parse4? text).or (parse6? text)

/-- The endpoint of the given port whose address a text spells without brackets
or scope. -/
def ofHost? (host : List Char) (port : UInt16) : Option Endpoint :=
  match Ip4.read host with
  | some (ip, []) => some (ip4 ip port)
  | _ =>
    match Ip6.read host with
    | some (ip, []) => some (ip6 ip port 0 0)
    | _ => none

end Endpoint

end ProxyTunnel
