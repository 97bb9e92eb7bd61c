import FlightStream.Url

/-!
The address of a live feed. It is read before each request. A relative address is requested all
the same, but no answer from it can be used.
-/

namespace FlightStream.Feed

/-- The address that is requested, and the fault of every answer from it, if there is one. -/
structure Address where
  text : String
  fault : Option Fault
  deriving Repr

/-- The address that a text stands for. -/
def Address.read (text : String) : Except Fault Address := do
  let given ← Url.read text
  let asked := Url.resolve {} given
  asked.checkHost
  return ⟨asked.text, if given.isAbsolute then none else some (.noScheme asked.text)⟩

end FlightStream.Feed
