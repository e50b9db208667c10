/-
What can be wrong with bytes on the wire, in either direction.
-/

set_option autoImplicit false

namespace ProxyTunnel

/-- A text too long for its one-byte length, or a reply that is none. -/
inductive WireError where
  /-- So many characters or bytes, where 255 are allowed. -/
  | tooLarge (size : Nat)
  | unknownAddressType (type : UInt8)
  | wrongVersion (version : UInt8)
  /-- A line is longer than so many bytes. -/
  | lineTooLong (limit : Nat)
  /-- So many bytes are buffered and no package is complete. -/
  | packageTooLarge (limit : Nat)
  deriving DecidableEq

/-- The wording of a wire error. -/
def WireError.message : WireError → String
  | tooLarge size => s!"Value too large: {size} bytes encoded, at most 255 allowed"
  | unknownAddressType type => s!"Unsupported address type: {type}"
  | wrongVersion version => s!"Invalid version: {version}"
  | lineTooLong limit => s!"Line exceeds {limit} bytes"
  | packageTooLarge limit => s!"Package exceeds {limit} bytes"

end ProxyTunnel
