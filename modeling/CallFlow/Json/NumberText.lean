import CallFlow.Decimal.Shortest
import CallFlow.Json.Basic

/-!
# The text of a number

Whole numbers are written in decimal.  A floating point number is written with the fewest digits
that read back.  It always shows a point or an exponent; powers of ten from `10 ^ -5` to `10 ^ 15`
are written out, all others as an exponent with its sign.
-/

namespace CallFlow.Json

/-- Where positional notation starts and ends, as powers of ten of the leading digit. -/
structure FloatLayout where
  least : Int
  greatest : Int

/-- The layout of floating point numbers in JSON text. -/
def floatLayout : FloatLayout := ⟨-5, 15⟩

/-- The binary number that the bits of a positive floating point number stand for: the low 52 bits
are its fraction, the 11 above them its exponent. -/
def binaryOfBits (bits : UInt64) : Decimal.Binary :=
  let fraction : Nat := bits.toNat % 0x10000000000000
  let field : Nat := bits.toNat / 0x10000000000000 % 0x800
  if field = 0 then ⟨fraction, -1074, false⟩
  else ⟨0x10000000000000 + fraction, (field : Int) - 1075, fraction == 0 && 1 < field⟩

/-- A text of zeros. -/
def zeros (n : Nat) : List Char :=
  List.replicate n '0'

/-- The text of a positive decimal number. -/
def layOut (layout : FloatLayout) (d : Decimal.Scaled) : List Char :=
  let digits := Nat.toDigits 10 d.digits
  let count := digits.length
  let leading : Int := d.exponent + count - 1
  if layout.least ≤ leading ∧ leading ≤ layout.greatest then
    if 0 ≤ d.exponent then digits ++ zeros d.exponent.toNat ++ ['.', '0']
    else if 0 ≤ leading then
      digits.take (leading.toNat + 1) ++ '.' :: digits.drop (leading.toNat + 1)
    else '0' :: '.' :: zeros (-leading - 1).toNat ++ digits
  else
    let head := digits.take 1
    let tail := if 1 < count then '.' :: digits.drop 1 else []
    let sign := if leading < 0 then '-' else '+'
    head ++ tail ++ 'e' :: sign :: Nat.toDigits 10 leading.natAbs

/-- The text of a floating point number given by its bits. -/
def floatText (bits : UInt64) : String :=
  let negative := decide (0x8000000000000000 ≤ bits.toNat)
  let magnitude : Nat := bits.toNat % 0x8000000000000000
  let body :=
    if magnitude = 0 then ['0', '.', '0']
    else layOut floatLayout (binaryOfBits magnitude.toUInt64).shortest
  String.ofList (if negative then '-' :: body else body)

/-- The text of a number. -/
def numberText : JsonNumber → String
  | .natural n => String.ofList (Nat.toDigits 10 n.toNat)
  | .negative n => String.ofList ('-' :: Nat.toDigits 10 (n.val + 1))
  | .float bits => floatText bits

end CallFlow.Json
