/-!
# Blank characters

The Unicode property White_Space. It holds more than the four characters that data formats skip
between their tokens: form feeds, the no-break space and the spaces of general punctuation too.
-/

namespace ClientGen.Text

/-- Whether a character has the property White_Space. -/
def isBlank (c : Char) : Bool :=
  let code := c.toNat
  (9 ≤ code && code ≤ 13) || code == 32 || code == 133 || code == 160 || code == 5760 ||
    (8192 ≤ code && code ≤ 8202) || code == 8232 || code == 8233 || code == 8239 ||
    code == 8287 || code == 12288

/-- The text without the blank characters at its two ends. -/
def trim (text : String) : String :=
  String.ofList (((text.toList.dropWhile isBlank).reverse.dropWhile isBlank).reverse)

/-- Splits at runs of characters that satisfy `separator`; no part is empty. -/
def fieldsBy (separator : Char → Bool) (cs : List Char) : List (List Char) :=
  let (current, done) := cs.foldr (fun c (current, done) =>
    if separator c then
      ([], if current.isEmpty then done else current :: done)
    else (c :: current, done)) (([] : List Char), ([] : List (List Char)))
  if current.isEmpty then done else current :: done

/-- The words of a text, separated by single spaces. -/
def collapse (text : String) : String :=
  " ".intercalate ((fieldsBy isBlank text.toList).map String.ofList)

end ClientGen.Text
