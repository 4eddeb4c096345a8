/-!
# Sets of characters given by ranges

A Unicode property is a set of code points, written down as the ascending list of its maximal
ranges. The tables themselves stand in the modules named for their property.
-/

namespace ClientGen.Text

/-- Whether a character lies in one of the inclusive ranges. -/
def inRanges (ranges : Array (Nat × Nat)) (c : Char) : Bool :=
  ranges.any fun (first, last) => first ≤ c.toNat && c.toNat ≤ last

end ClientGen.Text
