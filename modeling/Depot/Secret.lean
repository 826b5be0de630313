/-!
# Secrets

A secret is shown as a fixed mark wherever it is turned into text; its value has
to be asked for.
-/
namespace Depot

/-- A value kept out of texts. -/
structure Secret where
  /-- The secret itself. -/
  expose : String
  deriving DecidableEq

/-- What stands for a secret in every text. -/
def redactedMark : String := "[REDACTED]"

/-- The text of a secret does not depend on it. -/
def Secret.text (_ : Secret) : String := redactedMark

end Depot
