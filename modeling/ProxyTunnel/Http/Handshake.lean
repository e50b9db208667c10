/-
The HTTP handshake: one request, one answer.

Only the status line of the answer is looked at. The lines after it are skipped
up to the empty one; whatever follows that belongs to the tunnel. Credentials
count only if neither part is empty.
-/
import ProxyTunnel.Dialogue
import ProxyTunnel.Http.Request
import ProxyTunnel.Http.StatusLine

set_option autoImplicit false

namespace ProxyTunnel.Http

/-- The credentials that a handshake uses. -/
def effective (credentials : Option Credentials) : Option Credentials :=
  credentials.filter Credentials.isFilled

/-- Frames the lines of an answer. -/
def framing : Framing String := .lines Framing.defaultLimit id

/-- How the client goes on after the first line of the answer. -/
def afterStatus (line : String) : Dialogue String :=
  match checkStatus line with
  | .error e => .finish (.error (.http e))
  | .ok () => .note (.httpAnswered line) (.skipTo String.isEmpty (.finish (.ok ())))

/-- The whole handshake, for credentials that are used as they are. -/
def dialogue (credentials : Option Credentials) (remote : Destination) : Dialogue String :=
  .send (.ok (request remote credentials)) (.receive afterStatus)

end ProxyTunnel.Http
