/-!
# Faults of a JSON text

A reader takes a text from its first octet on and stops at the first fault.
-/

namespace RemoteTail.Json

/-- What is wrong with a JSON text. -/
inductive Fault where
  /-- The text is not JSON. -/
  | malformed
  /-- The value is JSON, but not of the wanted shape. -/
  | mismatch
  /-- The text ends too early. -/
  | truncated
deriving DecidableEq, Repr

end RemoteTail.Json
