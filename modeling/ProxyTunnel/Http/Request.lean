/-
The request of an HTTP client for a tunnel.

A request is lines that end with CR LF, and then an empty line. The authority,
which is the destination in its written form, stands in the first two lines.
Credentials are one more line: the two parts with a colon between them, in ASCII
and then in Base64, which has no character that could end the line.
-/
import ProxyTunnel.Address.Destination
import ProxyTunnel.Credentials
import ProxyTunnel.Text.Base64
import ProxyTunnel.Wire.Charset

set_option autoImplicit false

namespace ProxyTunnel.Http

/-- The end of a line. -/
def lineEnd : Bytes := [13, 10]

/-- The text that proves who asks. -/
def basicToken (c : Credentials) : String :=
  String.ofList (Base64.encode (Charset.ascii.encode (c.username ++ ":" ++ c.password)))

/-- The line that proves who asks. -/
def authorization (c : Credentials) : String :=
  "Proxy-Authorization: Basic " ++ basicToken c

/-- The lines of a request, without the empty one at its end. -/
def requestLines (remote : Destination) (credentials : Option Credentials) : List String :=
  [s!"CONNECT {remote.text} HTTP/1.1", s!"Host: {remote.text}", "Proxy-Connection: Keep-Alive"] ++
    (credentials.map authorization).toList

/-- The bytes of lines with an empty one after them. -/
def head (lines : List String) : Bytes :=
  (lines.flatMap fun line => Charset.ascii.encode line ++ lineEnd) ++ lineEnd

/-- The request for a tunnel. -/
def request (remote : Destination) (credentials : Option Credentials) : Bytes :=
  head (requestLines remote credentials)

end ProxyTunnel.Http
