/-
The address a SOCKS5 proxy reports for its own end of a tunnel.
-/
import ProxyTunnel.Address.Ip6

set_option autoImplicit false

namespace ProxyTunnel.Socks

/-- An IP address or a host name, as a reply carries it. -/
inductive BoundHost where
  | ip4 (ip : Ip4)
  | ip6 (ip : Ip6)
  | named (host : String)
  deriving DecidableEq

/-- The address and the port a reply carries. -/
structure Bound where
  host : BoundHost
  port : UInt16
  deriving DecidableEq

end ProxyTunnel.Socks
