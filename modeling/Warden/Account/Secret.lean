import Warden.Text.Blank

/-!
# Secrets

A credential that never shows in diagnostics: its dump and its display are fixed texts, and
only `reveal` gives the value.
-/

namespace Warden

/-- A provider API key. -/
structure ApiKey where
  reveal : String
  deriving DecidableEq, Inhabited

namespace ApiKey

/-- Whether the key is empty. -/
def isEmpty (k : ApiKey) : Bool := k.reveal.isEmpty

/-- The key with blanks trimmed from both ends. -/
def trimmed (k : ApiKey) : ApiKey := ⟨Text.trim k.reveal⟩

/-- The dump of a key, which hides it. -/
def dump (_ : ApiKey) : String := "ApiKey([REDACTED])"

/-- The display of a key, which hides it. -/
def display (_ : ApiKey) : String := "[REDACTED]"

end ApiKey

end Warden
