import CallFlow.Json.Basic
import CallFlow.Json.Malformed
import CallFlow.Text.Natural

/-!
# Numerals

A numeral is the spelling of a JSON number: a sign, digits, and possibly a fraction and an
exponent.  `Numeral.scan` cuts one off the front of a text; `Numeral.value` is the number it stands
for.  A whole number that fits 64 bits is exact.  Any other numeral is a significand of 64 bits,
taken from the leading digits, that is scaled by a power of ten in floating point arithmetic.
-/

namespace CallFlow.Json

/-- The parts of the spelling of a number. -/
structure Numeral where
  negative : Bool
  /-- The digits before the point. -/
  whole : List Char
  /-- The digits behind the point. -/
  fraction : List Char
  /-- Whether the exponent is negative, and its digits. -/
  exponent : Option (Bool × List Char)
  deriving DecidableEq

namespace Numeral

/-- Where a digit was due: the text ended, or something else stood there. -/
def missingDigit : List Char → Malformed
  | [] => .endInValue
  | _ => .invalidNumber

/-- Cuts a non-empty run of digits off the front of a text. -/
def scanDigits (cs : List Char) : Except Malformed (List Char × List Char) :=
  let digits := cs.takeWhile Char.isDigit
  let rest := cs.dropWhile Char.isDigit
  if digits.isEmpty then .error (missingDigit rest) else .ok (digits, rest)

/-- The digits behind a point, if a point comes next. -/
def scanFraction : List Char → Except Malformed (List Char × List Char)
  | '.' :: cs => scanDigits cs
  | cs => .ok ([], cs)

/-- The sign of an exponent. -/
def scanExponentSign : List Char → Bool × List Char
  | '-' :: cs => (true, cs)
  | '+' :: cs => (false, cs)
  | cs => (false, cs)

/-- The digits of an exponent behind its mark. -/
def scanExponentDigits (cs : List Char) :
    Except Malformed (Option (Bool × List Char) × List Char) :=
  let (negative, cs) := scanExponentSign cs
  match scanDigits cs with
  | .ok (digits, rest) => .ok (some (negative, digits), rest)
  | .error why => .error why

/-- The exponent, if its mark comes next. -/
def scanExponent : List Char → Except Malformed (Option (Bool × List Char) × List Char)
  | 'e' :: cs => scanExponentDigits cs
  | 'E' :: cs => scanExponentDigits cs
  | cs => .ok (none, cs)

/-- The minus sign of a numeral. -/
def scanSign : List Char → Bool × List Char
  | '-' :: cs => (true, cs)
  | cs => (false, cs)

/-- Cuts a numeral off the front of a text.  The digits before the point start with a zero only if
that zero stands alone. -/
def scan (cs : List Char) : Except Malformed (Numeral × List Char) :=
  match scanDigits (scanSign cs).2 with
  | .error why => .error why
  | .ok (whole, behindWhole) =>
    if whole.head? = some '0' ∧ 1 < whole.length then .error .invalidNumber
    else
      match scanFraction behindWhole with
      | .error why => .error why
      | .ok (fraction, behindFraction) =>
        match scanExponent behindFraction with
        | .error why => .error why
        | .ok (exponent, rest) => .ok (⟨(scanSign cs).1, whole, fraction, exponent⟩, rest)

/-- A run of digits takes at least one character. -/
theorem length_lt_of_scanDigits {cs digits rest : List Char}
    (h : scanDigits cs = .ok (digits, rest)) : rest.length < cs.length := by
  unfold scanDigits at h
  simp only at h
  split at h
  · simp at h
  · rename_i nonempty
    obtain ⟨rfl, rfl⟩ := by simpa using h
    have whole := congrArg List.length
      (List.takeWhile_append_dropWhile (p := Char.isDigit) (l := cs))
    simp only [List.length_append] at whole
    have : 0 < (cs.takeWhile Char.isDigit).length := by
      simpa [List.length_pos_iff] using nonempty
    omega

/-- A sign is cut off the front, or nothing is. -/
theorem length_scanSign_le (cs : List Char) : (scanSign cs).2.length ≤ cs.length := by
  unfold scanSign
  split <;> simp

/-- The sign of an exponent is cut off the front, or nothing is. -/
theorem length_scanExponentSign_le (cs : List Char) :
    (scanExponentSign cs).2.length ≤ cs.length := by
  unfold scanExponentSign
  split <;> simp

/-- Reading a fraction leaves no more than there was. -/
theorem length_le_of_scanFraction {cs digits rest : List Char}
    (h : scanFraction cs = .ok (digits, rest)) : rest.length ≤ cs.length := by
  unfold scanFraction at h
  split at h
  · have := length_lt_of_scanDigits h
    simp only [List.length_cons]
    omega
  · obtain ⟨-, rfl⟩ := by simpa using h
    exact Nat.le_refl _

/-- Reading the digits of an exponent leaves no more than there was. -/
theorem length_le_of_scanExponentDigits {cs rest : List Char} {exponent}
    (h : scanExponentDigits cs = .ok (exponent, rest)) : rest.length ≤ cs.length := by
  unfold scanExponentDigits at h
  have sign := length_scanExponentSign_le cs
  simp only at h
  split at h
  · rename_i digits
    have := length_lt_of_scanDigits digits
    obtain ⟨-, rfl⟩ := by simpa using h
    omega
  · simp at h

/-- Reading an exponent leaves no more than there was. -/
theorem length_le_of_scanExponent {cs rest : List Char} {exponent}
    (h : scanExponent cs = .ok (exponent, rest)) : rest.length ≤ cs.length := by
  unfold scanExponent at h
  split at h
  · exact Nat.le_succ_of_le (length_le_of_scanExponentDigits h)
  · exact Nat.le_succ_of_le (length_le_of_scanExponentDigits h)
  · obtain ⟨-, rfl⟩ := by simpa using h
    exact Nat.le_refl _

/-- A numeral takes at least one character. -/
theorem length_lt_of_scan {cs rest : List Char} {numeral : Numeral}
    (h : scan cs = .ok (numeral, rest)) : rest.length < cs.length := by
  unfold scan at h
  have sign := length_scanSign_le cs
  split at h
  · simp at h
  · rename_i digits
    have digits := length_lt_of_scanDigits digits
    split at h
    · simp at h
    · split at h
      · simp at h
      · rename_i fraction
        have fraction := length_le_of_scanFraction fraction
        split at h
        · simp at h
        · rename_i exponent
          have exponent := length_le_of_scanExponent exponent
          obtain ⟨-, rfl⟩ := by simpa using h
          omega

/-- Appends digits to a significand as long as it fits 64 bits; the digits from the first one that
does not fit are left over. -/
def absorb (significand : Nat) : List Char → Nat × List Char
  | [] => (significand, [])
  | c :: cs =>
    let next := 10 * significand + Text.digitValue c
    if next < Text.wordLimit then absorb next cs else (significand, c :: cs)

/-- `f * 10 ^ exponent` in floating point arithmetic, in steps of at most 308 powers of ten; `none`
when the result is too large.  Two steps down bring every significand to zero. -/
def scaleDown : Nat → Float → Nat → Float
  | 0, f, exponent => f / Float.ofScientific 1 false exponent
  | steps + 1, f, exponent =>
    if exponent ≤ 308 then f / Float.ofScientific 1 false exponent
    else if f == 0 then f
    else scaleDown steps (f / Float.ofScientific 1 false 308) (exponent - 308)

/-- The floating point number `significand * 10 ^ exponent`, if it is finite. -/
def scale (significand : Nat) (exponent : Int) : Option Float :=
  let f := significand.toUInt64.toFloat
  if exponent < 0 then some (scaleDown 3 f exponent.natAbs)
  else if exponent ≤ 308 then
    let f := f * Float.ofScientific 1 false exponent.natAbs
    if f.isInf then none else some f
  else if f == 0 then some f
  else none

/-- A floating point number with a sign. -/
def signed (negative : Bool) (f : Float) : JsonNumber :=
  .float (if negative then (-f).toBits else f.toBits)

/-- A whole number spelled by a significand that absorbed every digit.  Minus zero and whole numbers
below the range of 64 bits are floating point numbers. -/
def wholeNumber (negative : Bool) (significand : Nat) : JsonNumber :=
  if negative then
    if significand = 0 then signed true significand.toUInt64.toFloat
    else if h : significand - 1 < 0x8000000000000000 then .negative ⟨significand - 1, h⟩
    else signed true significand.toUInt64.toFloat
  else .natural significand.toUInt64

/-- The number that a numeral stands for; `none` when it is too large for a floating point number.
-/
def value (n : Numeral) : Option JsonNumber :=
  let (significand, dropped) := absorb 0 n.whole
  if dropped.isEmpty && n.fraction.isEmpty && n.exponent.isNone then
    some (wholeNumber n.negative significand)
  else
    let (significand, beyond) := absorb significand n.fraction
    let shift : Int := dropped.length - (n.fraction.length - beyond.length : Nat)
    match n.exponent with
    | none => (scale significand shift).map (signed n.negative)
    | some (down, digits) =>
      let e := Text.digitsValue 0 digits
      if 0x80000000 ≤ e then
        if significand ≠ 0 ∧ down = false then none else some (signed n.negative 0)
      else
        (scale significand (if down then shift - e else shift + e)).map (signed n.negative)

end Numeral

end CallFlow.Json
