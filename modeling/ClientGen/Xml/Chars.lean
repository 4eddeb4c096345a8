/-!
# Characters of XML

Which characters may stand in a document, which of them are blanks, and which may begin or continue
a name.
-/

namespace ClientGen.Xml

/-- The blanks of markup. -/
def isSpace (c : Char) : Bool :=
  c == ' ' || c == '\t' || c == '\n' || c == '\r'

/-- Whether a character may stand in a document. -/
def isAllowed (c : Char) : Bool :=
  if c.toNat < 32 then isSpace c else c.toNat != 0xFFFE && c.toNat != 0xFFFF

/-- The code points outside ASCII that may begin a name. -/
def nameStartRanges : List (Nat × Nat) :=
  [(0xC0, 0xD6), (0xD8, 0xF6), (0xF8, 0x2FF), (0x370, 0x37D), (0x37F, 0x1FFF), (0x200C, 0x200D),
    (0x2070, 0x218F), (0x2C00, 0x2FEF), (0x3001, 0xD7FF), (0xF900, 0xFDCF), (0xFDF0, 0xFFFD),
    (0x10000, 0xEFFFF)]

/-- The code points outside ASCII that may continue a name, but not begin one. -/
def nameOnlyRanges : List (Nat × Nat) :=
  [(0xB7, 0xB7), (0x300, 0x36F), (0x203F, 0x2040)]

/-- Whether a code point lies in one of the inclusive ranges. -/
def liesIn (ranges : List (Nat × Nat)) (c : Char) : Bool :=
  ranges.any fun (first, last) => first ≤ c.toNat && c.toNat ≤ last

/-- Whether a character may begin a name. -/
def isNameStart (c : Char) : Bool :=
  c.isAlpha || c == ':' || c == '_' || liesIn nameStartRanges c

/-- Whether a character may continue a name. -/
def isNameChar (c : Char) : Bool :=
  c.isAlphanum || c == ':' || c == '_' || c == '-' || c == '.' || liesIn nameStartRanges c ||
    liesIn nameOnlyRanges c

end ClientGen.Xml
