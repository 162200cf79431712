/-!
# The shortest decimal that reads back

A finite positive binary number `m * 2 ^ e` stands for every real that rounds to it.  Of the
decimals in that interval this module picks one with the fewest digits and, of those, the one
nearest to the number itself.  All arithmetic is exact: the interval is scaled to integers, and the
decimals `d * 10 ^ k` are tried grid by grid, the coarsest first.
-/

namespace CallFlow.Decimal

/-- A positive binary number `mantissa * 2 ^ exponent` with the reals that round to it.  The ends of
the interval belong to it when the mantissa is even. -/
structure Binary where
  mantissa : Nat
  exponent : Int
  /-- Whether the next smaller number is only half as far away as the next larger one. -/
  narrowBelow : Bool
  deriving DecidableEq

/-- A decimal number `digits * 10 ^ exponent`. -/
structure Scaled where
  digits : Nat
  exponent : Int
  deriving DecidableEq

namespace Binary

/-- A quarter of the last place, as a fraction of natural numbers times `10 ^ k`: the numerator that
one quarter contributes, and the common denominator. -/
def quarterOver (b : Binary) (k : Int) : Nat × Nat :=
  let binary := b.exponent - 2
  (Nat.pow 2 binary.toNat * Nat.pow 10 (-k).toNat, Nat.pow 2 (-binary).toNat * Nat.pow 10 k.toNat)

/-- Whether `d * 10 ^ k` rounds to the number. -/
def holds (b : Binary) (k : Int) (d : Nat) : Bool :=
  let (quarter, unit) := b.quarterOver k
  let low := (4 * b.mantissa - (if b.narrowBelow then 1 else 2)) * quarter
  let high := (4 * b.mantissa + 2) * quarter
  if b.mantissa % 2 == 0 then low ≤ d * unit && d * unit ≤ high
  else low < d * unit && d * unit < high

/-- The neighbour of the number on the grid of multiples of `10 ^ k` that rounds to it, if there is
one; of two the nearer, and of two at the same distance the even one. -/
def onGrid (b : Binary) (k : Int) : Option Nat :=
  let (quarter, unit) := b.quarterOver k
  let value := 4 * b.mantissa * quarter
  let below := value / unit
  match b.holds k below, b.holds k (below + 1) with
  | true, true =>
    let rest := value - below * unit
    if 2 * rest < unit then some below
    else if 2 * rest > unit then some (below + 1)
    else if below % 2 == 0 then some below else some (below + 1)
  | true, false => some below
  | false, true => some (below + 1)
  | false, false => none

/-- Tries the grid `10 ^ k` and then the finer ones, `tries` of them. -/
def searchFrom (b : Binary) : Nat → Int → Scaled
  | 0, k => ⟨0, k⟩
  | tries + 1, k =>
    match b.onGrid k with
    | some d => ⟨d, k⟩
    | none => b.searchFrom tries (k - 1)

/-- An exponent of ten above the number: the grid of its multiples misses the number, and the
coarsest grid that hits it is at most nineteen steps finer. -/
def coarsest (b : Binary) : Int :=
  (b.mantissa.log2 + b.exponent + 1) * 30103 / 100000 + 2

/-- The shortest decimal that rounds to the number, the nearest of the shortest. -/
def shortest (b : Binary) : Scaled :=
  b.searchFrom 22 b.coarsest

end Binary

end CallFlow.Decimal
