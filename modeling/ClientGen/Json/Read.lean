import ClientGen.Data.Settle
import ClientGen.Json.Parse

/-!
# Reading values from JSON

A JSON text is read into a value by a reader of that value. Containers may be nested 127 deep where
their contents are wanted. Anything behind the value is an error, which comes after those inside it.
-/

namespace ClientGen.Json

open Data

/-- How deep containers may be nested. -/
def maxLevels : Nat := 127

/-- Reads a text that holds one value. -/
def read {α : Type} (reader : Reader α) (text : String) : Except ReadError α := do
  let document := parse text
  let value ← reader ⟨maxLevels, false⟩ document.root
  if document.trailing then .error (.flaw .malformed) else .ok value

end ClientGen.Json
