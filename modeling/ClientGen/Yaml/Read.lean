import ClientGen.Data.Settle
import ClientGen.Yaml.Document

/-!
# Reading values from YAML

A YAML text is read into a value by a reader of that value. What exactly is wrong with a text that
cannot be read is not told.
-/

namespace ClientGen.Yaml

/-- Reads a text that holds one value. -/
def read? {α : Type} (reader : Data.Reader α) (text : String) : Option α := do
  let source ← document? text
  (reader ⟨maxLevels, false⟩ source).toOption

end ClientGen.Yaml
