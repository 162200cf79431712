/-!
# Natural numbers in decimal notation

Whole numbers in scripts and in settings are read by one rule: an optional plus sign, then at
least one ASCII digit and nothing else, with a value below the limit of a 64-bit word.
-/

namespace CallFlow.Text

/-- The value of an ASCII digit. -/
def digitValue (c : Char) : Nat :=
  c.toNat - '0'.toNat

/-- The number that a list of digits spells in base ten, given the value of what stands before. -/
def digitsValue (before : Nat) (digits : List Char) : Nat :=
  digits.foldl (fun value c => 10 * value + digitValue c) before

/-- The number of values of a 64-bit word. -/
def wordLimit : Nat := 0x10000000000000000

/-- Reads a non-empty list of ASCII digits whose value fits a 64-bit word. -/
def readDigits (cs : List Char) : Option Nat :=
  if !cs.isEmpty && cs.all Char.isDigit && digitsValue 0 cs < wordLimit then
    some (digitsValue 0 cs)
  else none

/-- Reads a natural number that fits a 64-bit word, with an optional plus sign. -/
def readNatural : List Char → Option Nat
  | '+' :: cs => readDigits cs
  | cs => readDigits cs

end CallFlow.Text
