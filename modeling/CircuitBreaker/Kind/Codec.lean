/-
Kinds of states as JSON.
-/
import CircuitBreaker.Json.Decoder
import CircuitBreaker.Kind

namespace CircuitBreaker.Kind

/-- A kind as JSON: its name. -/
def encode (kind : Kind) : Json := .string kind.name

/-- A kind from JSON: its name, or an object with its name as the only key. -/
def decode (origin : Origin) : Decoder Kind :=
  Draft.decodeVariant (all.map fun kind => (kind.name, kind)) origin

end CircuitBreaker.Kind
