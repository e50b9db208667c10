/-
The first line of an HTTP answer.

A status line begins with `HTTP/1.`, in letters of either case, and has the
status in the three characters after its first space. The status is read as a
number, so a plus sign may stand for its first digit. A line without all that is
no status line; a status outside 200 to 299 is a refusal.
-/
import ProxyTunnel.Failure

set_option autoImplicit false

namespace ProxyTunnel.Http

/-- What a status line begins with, in small letters. -/
def protocolName : List Char := ['h', 't', 't', 'p', '/', '1', '.']

/-- Whether a line begins with the name of the protocol. -/
def namesProtocol (line : List Char) : Bool :=
  (line.take protocolName.length).map Char.toLower == protocolName

/-- The status of a line, if it is a status line. -/
def status? (line : List Char) : Option Nat :=
  if namesProtocol line then
    match line.dropWhile (· ≠ ' ') with
    | ' ' :: a :: b :: c :: _ => Decimal.readSigned? 65535 [a, b, c]
    | _ => none
  else none

/-- Whether a line announces a tunnel. -/
def checkStatus (line : String) : Except HttpRefusal Unit :=
  match status? line.toList with
  | none => .error (.noStatusLine line)
  | some status =>
    if 200 ≤ status ∧ status ≤ 299 then .ok () else .error (.rejected (UInt16.ofNat status))

end ProxyTunnel.Http
