/-
Credentials for a proxy that wants to know who asks.

A password never shows up in diagnostics (`Credentials.diagnostic`); its place
is taken by a fixed word, whatever the password is.
-/
import ProxyTunnel.Text.Blank
import ProxyTunnel.Text.Quoted

set_option autoImplicit false

namespace ProxyTunnel

/-- A user name and a password. -/
structure Credentials where
  username : String
  password : String
  deriving DecidableEq

namespace Credentials

/-- Neither part is empty. -/
def isFilled (c : Credentials) : Bool :=
  !c.username.isEmpty && !c.password.isEmpty

/-- Each part has a character that is not blank. -/
def isVisible (c : Credentials) : Bool :=
  !Text.blank c.username && !Text.blank c.password

/-- The user name, quoted, and a word in place of the password. -/
def diagnostic (c : Credentials) : String :=
  "Credentials \x7b username: " ++ Text.quote c.username ++ ", password: " ++
    Text.quote "<redacted>" ++ " \x7d"

/-- Diagnostics do not depend on the password. -/
theorem diagnostic_congr {c d : Credentials} (h : c.username = d.username) :
    c.diagnostic = d.diagnostic := by
  unfold diagnostic
  rw [h]

end Credentials

end ProxyTunnel
