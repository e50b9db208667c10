/-
The SOCKS5 handshake: offer methods, prove who asks if the proxy wants it, and
ask for a tunnel.

Credentials count only if both parts have a character that is not blank. A proxy
that selects a method the client cannot follow ends the handshake.
-/
import ProxyTunnel.Dialogue
import ProxyTunnel.Socks.Answer

set_option autoImplicit false

namespace ProxyTunnel.Socks

/-- The credentials that a handshake uses. -/
def effective (credentials : Option Credentials) : Option Credentials :=
  credentials.filter Credentials.isVisible

/-- Asks for a tunnel, and ends as the proxy decides. -/
def requestDialogue (remote : Destination) : Dialogue Answer :=
  .note (.requesting remote) <|
  .send (connectFrame remote) <|
  .receive fun answer =>
    match Reply.ofByte answer.status with
    | .succeeded => .note (.relaying remote answer.bound?) (.finish (.ok ()))
    | reply => .finish (.error (.socks (.rejected reply)))

/-- Proves who asks, and then asks for a tunnel. -/
def credentialsDialogue (c : Credentials) (remote : Destination) : Dialogue Answer :=
  .note (.authenticating c.username) <|
  .send (credentialsFrame c) <|
  .receive fun answer =>
    if answer.status = 0 then requestDialogue remote
    else .finish (.error (.socks .credentialsRejected))

/-- The end of a handshake whose proxy selects a method that was not offered. -/
def refusal (method : Method) : Dialogue Answer :=
  .finish (.error (.socks (.protocolViolation s!"proxy selected method {method.name}")))

/-- How the client goes on after the proxy selected a method. -/
def afterMethod (credentials : Option Credentials) (remote : Destination) :
    Method → Dialogue Answer
  | .noAuth => .note .acceptedWithoutAuth (requestDialogue remote)
  | .usernamePassword =>
    match credentials with
    | some c => credentialsDialogue c remote
    | none => refusal .usernamePassword
  | method => refusal method

/-- The whole handshake, for credentials that are used as they are. -/
def dialogue (credentials : Option Credentials) (remote : Destination) : Dialogue Answer :=
  .send (.ok (greeting (offered credentials))) <|
  .receive fun answer => afterMethod credentials remote (Method.ofByte answer.status)

end ProxyTunnel.Socks
