/-!
# Digits

The values of digits up to base sixteen, and of numbers that are written with them.
-/

namespace CallFlow.Text

/-- The value of a hexadecimal digit. -/
def hexDigit? (c : Char) : Option Nat :=
  if '0' ≤ c ∧ c ≤ '9' then some (c.toNat - '0'.toNat)
  else if 'a' ≤ c ∧ c ≤ 'f' then some (c.toNat - 'a'.toNat + 10)
  else if 'A' ≤ c ∧ c ≤ 'F' then some (c.toNat - 'A'.toNat + 10)
  else none

/-- The value of a digit of a base up to sixteen. -/
def digit? (base : Nat) (c : Char) : Option Nat :=
  (hexDigit? c).filter (· < base)

/-- The number that digits of a base spell; without digits it is zero. -/
def valueInBase? (base : Nat) (cs : List Char) : Option Nat :=
  cs.foldlM (fun n c => (digit? base c).map (base * n + ·)) 0

end CallFlow.Text
