/-!
# Characters of YAML

The classes of characters that decide how a scalar can be written and where one ends.
-/

namespace ClientGen.Yaml

/-- Whether a character ends a line. -/
def isBreak (c : Char) : Bool :=
  c == '\n' || c == '\r' || c.toNat == 0x85 || c.toNat == 0x2028 || c.toNat == 0x2029

/-- Whether a character is a blank inside a line. -/
def isBlank (c : Char) : Bool :=
  c == ' ' || c == '\t'

/-- Whether a character, or the end of the text, separates words. -/
def endsWord : Option Char → Bool
  | none => true
  | some c => isBlank c || isBreak c

/-- Whether a character may be written as it is. -/
def isPrintable (c : Char) : Bool :=
  let code := c.toNat
  code == 10 || (32 ≤ code && code ≤ 126) ||
    (160 ≤ code && code != 0xFEFF && code != 0xFFFE && code != 0xFFFF)

/-- Whether a character may stand in a document at all. -/
def isAllowed (c : Char) : Bool :=
  let code := c.toNat
  code == 9 || code == 10 || code == 13 || (32 ≤ code && code ≤ 126) || code == 0x85 ||
    (160 ≤ code && code != 0xFFFE && code != 0xFFFF)

/-- Whether a character may stand in the name of an anchor or a directive. -/
def isNameChar (c : Char) : Bool :=
  c.isAlphanum || c == '_' || c == '-'

/-- Whether a character has a meaning of its own inside brackets. -/
def isFlowIndicator (c : Char) : Bool :=
  ",[]\x7b\x7d".toList.contains c

end ClientGen.Yaml
