/-!
# Sets of characters

A set of characters is given by ranges of their numbers, ends included.
-/

namespace CallFlow.Text

/-- Ranges of numbers of characters, ends included. -/
abbrev Ranges := List (Nat × Nat)

/-- Whether a character is in one of the ranges. -/
def Ranges.contains (ranges : Ranges) (c : Char) : Bool :=
  ranges.any fun (first, last) => first ≤ c.toNat && c.toNat ≤ last

end CallFlow.Text
