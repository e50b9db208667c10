/-
The numbered answers of a SOCKS5 proxy: the authentication method it selects,
and its verdict on a request.

Every byte is a code. Codes without a meaning of their own are kept as they
are, so that reading a byte and writing it back changes nothing
(`Method.toByte_ofByte`, `Reply.toByte_ofByte`).
-/

set_option autoImplicit false

namespace ProxyTunnel.Socks

/-! ## Authentication methods -/

/-- A method of authentication. -/
inductive Method where
  | noAuth
  | gssApi
  | usernamePassword
  | noAcceptableMethod
  | other (code : UInt8)
  deriving DecidableEq

namespace Method

/-- The code of a method. -/
def toByte : Method → UInt8
  | noAuth => 0
  | gssApi => 1
  | usernamePassword => 2
  | noAcceptableMethod => 0xFF
  | other code => code

/-- The method where nobody asks for another. -/
def preferred : Method := noAuth

/-- The methods that have a meaning of their own. -/
def named : List Method := [noAuth, gssApi, usernamePassword, noAcceptableMethod]

/-- The method with a code. -/
def ofByte (code : UInt8) : Method :=
  (named.find? fun m => m.toByte == code).getD (other code)

/-- The name of a method in diagnostics. -/
def name : Method → String
  | noAuth => "NoAuth"
  | gssApi => "GssApi"
  | usernamePassword => "UsernamePassword"
  | noAcceptableMethod => "NoAcceptableMethod"
  | other code => s!"Other({code})"

theorem toByte_ofByte (code : UInt8) : (ofByte code).toByte = code := by
  unfold ofByte
  cases h : named.find? fun m => m.toByte == code with
  | none => rfl
  | some m => simpa using List.find?_some h

end Method

/-! ## Verdicts -/

/-- A verdict on a request. -/
inductive Reply where
  | succeeded
  | generalFailure
  | notAllowed
  | networkUnreachable
  | hostUnreachable
  | connectionRefused
  | ttlExpired
  | commandNotSupported
  | addressTypeNotSupported
  | other (code : UInt8)
  deriving DecidableEq

namespace Reply

/-- The code of a verdict. -/
def toByte : Reply → UInt8
  | succeeded => 0
  | generalFailure => 1
  | notAllowed => 2
  | networkUnreachable => 3
  | hostUnreachable => 4
  | connectionRefused => 5
  | ttlExpired => 6
  | commandNotSupported => 7
  | addressTypeNotSupported => 8
  | other code => code

/-- The verdicts that have a meaning of their own. -/
def named : List Reply :=
  [succeeded, generalFailure, notAllowed, networkUnreachable, hostUnreachable, connectionRefused,
    ttlExpired, commandNotSupported, addressTypeNotSupported]

/-- The verdict with a code. -/
def ofByte (code : UInt8) : Reply :=
  (named.find? fun r => r.toByte == code).getD (other code)

/-- The name of a verdict in diagnostics. -/
def name : Reply → String
  | succeeded => "Succeeded"
  | generalFailure => "GeneralSocksServerFailure"
  | notAllowed => "ConnectionNotAllowedByRuleset"
  | networkUnreachable => "NetworkUnreachable"
  | hostUnreachable => "HostUnreachable"
  | connectionRefused => "ConnectionRefused"
  | ttlExpired => "TtlExpired"
  | commandNotSupported => "CommandNotSupported"
  | addressTypeNotSupported => "AddressTypeNotSupported"
  | other code => s!"Other({code})"

/-- What a verdict says, in words. -/
def reason : Reply → String
  | succeeded => "succeeded"
  | notAllowed => "connection not allowed by ruleset"
  | networkUnreachable => "network unreachable"
  | hostUnreachable => "host unreachable"
  | connectionRefused => "connection refused by destination host"
  | ttlExpired => "TTL expired"
  | commandNotSupported => "command not supported / protocol error"
  | addressTypeNotSupported => "address type not supported"
  | generalFailure | other _ => "general failure"

theorem toByte_ofByte (code : UInt8) : (ofByte code).toByte = code := by
  unfold ofByte
  cases h : named.find? fun r => r.toByte == code with
  | none => rfl
  | some r => simpa using List.find?_some h

end Reply

end ProxyTunnel.Socks
