import CallFlow.Json.NumberText
import CallFlow.Json.Numeral
import CallFlow.Proofs.Text.Line

/-!
# Reading whole numbers back

A whole number is written as its decimals, and a numeral of decimals alone stands for the number
that they spell, as long as that fits 64 bits.  A numeral goes as far as it can, so the facts are
about decimals in front of a text that does not continue a number.
-/

namespace CallFlow

/-- A number that is kept as a whole number. -/
def JsonNumber.IsWhole : JsonNumber → Prop
  | .natural _ => True
  | .negative _ => True
  | .float _ => False

namespace Json

/-- Behind a value the text ends, or a comma, a closing bracket or a new line comes next. -/
def EndsValue (rest : List Char) : Prop :=
  ∀ c ∈ rest.head?, c ∈ [',', ']', '\x7d', '\n']

theorem endsValue_nil : EndsValue [] :=
  nofun

theorem endsValue_cons {c : Char} (h : c ∈ [',', ']', '\x7d', '\n']) (cs : List Char) :
    EndsValue (c :: cs) := by
  rintro _ ⟨⟩
  exact h

namespace Numeral

/-! ## Decimals -/

theorem isDigit_of_mem_toDigits {n : Nat} {c : Char} (h : c ∈ Nat.toDigits 10 n) :
    c.isDigit = true :=
  Nat.isDigit_of_mem_toDigits (by decide) (by decide) h

theorem exists_toDigits_eq (n : Nat) :
    ∃ c cs, Nat.toDigits 10 n = c :: cs ∧ c.isDigit = true := by
  have hne : Nat.toDigits 10 n ≠ [] := by simp
  obtain ⟨c, cs, hdigits⟩ := List.exists_cons_of_ne_nil hne
  refine ⟨c, cs, hdigits, isDigit_of_mem_toDigits (n := n) ?_⟩
  rw [hdigits]
  exact List.mem_cons_self

theorem digitChar_ne_zero {d : Nat} (hpos : 0 < d) (hlt : d < 10) : Nat.digitChar d ≠ '0' := by
  have hall : ∀ d < 10, 0 < d → Nat.digitChar d ≠ '0' := by decide
  exact hall d hlt hpos

/-- No zero stands in front of other decimals. -/
theorem head?_toDigits_ne {n : Nat} (hpos : 0 < n) : (Nat.toDigits 10 n).head? ≠ some '0' := by
  induction n using Nat.strongRecOn with
  | ind n ih =>
    rw [Nat.toDigits_eq_if (by decide)]
    by_cases hsmall : n < 10
    · rw [if_pos hsmall, List.head?_cons]
      intro h
      exact digitChar_ne_zero hpos hsmall (Option.some.inj h)
    · have hfront := ih (n / 10) (by omega) (by omega)
      rwa [if_neg hsmall, List.head?_append, Option.or_of_isSome (by simp)]

/-- Decimals that spell a number below the limit are absorbed to the last. -/
theorem absorb_eq {digits : List Char} {before : Nat}
    (h : Text.digitsValue before digits < Text.wordLimit) :
    absorb before digits = (Text.digitsValue before digits, []) := by
  have hgrows : ∀ (cs : List Char) (n : Nat), n ≤ Text.digitsValue n cs := by
    intro cs
    induction cs with
    | nil => exact fun n => Nat.le_refl n
    | cons c cs ih =>
      intro n
      have hstep := ih (10 * n + Text.digitValue c)
      change n ≤ Text.digitsValue (10 * n + Text.digitValue c) cs
      omega
  induction digits generalizing before with
  | nil => rfl
  | cons c digits ih =>
    change Text.digitsValue (10 * before + Text.digitValue c) digits < Text.wordLimit at h
    have hnext := hgrows digits (10 * before + Text.digitValue c)
    rw [absorb, if_pos (by omega), ih h]
    rfl

/-! ## Scanning -/

theorem scanDigits_append {digits rest : List Char} (hdigits : ∀ c ∈ digits, c.isDigit = true)
    (hne : digits ≠ []) (hrest : EndsValue rest) :
    scanDigits (digits ++ rest) = .ok (digits, rest) := by
  have hstop : rest.takeWhile Char.isDigit = [] ∧ rest.dropWhile Char.isDigit = rest := by
    cases rest with
    | nil => exact ⟨rfl, rfl⟩
    | cons c cs =>
      have hc := hrest c rfl
      have hother : c.isDigit = false := by
        simp only [List.mem_cons, List.not_mem_nil, or_false] at hc
        rcases hc with rfl | rfl | rfl | rfl <;> rfl
      exact ⟨by simp [hother], by simp [hother]⟩
  rw [scanDigits, List.takeWhile_append_of_pos hdigits, List.dropWhile_append_of_pos hdigits,
    hstop.1, hstop.2, List.append_nil]
  simp [hne]

theorem scanFraction_of_endsValue {rest : List Char} (h : EndsValue rest) :
    scanFraction rest = .ok ([], rest) := by
  rw [scanFraction]
  rintro cs rfl
  exact absurd (h '.' rfl) (by decide)

theorem scanExponent_of_endsValue {rest : List Char} (h : EndsValue rest) :
    scanExponent rest = .ok (none, rest) := by
  rw [scanExponent]
  · rintro cs rfl
    exact absurd (h 'e' rfl) (by decide)
  · rintro cs rfl
    exact absurd (h 'E' rfl) (by decide)

/-- Decimals behind an optional sign are scanned as a numeral without fraction and exponent. -/
theorem scan_eq {cs rest : List Char} (negative : Bool) (n : Nat)
    (hsign : scanSign cs = (negative, Nat.toDigits 10 n ++ rest)) (hrest : EndsValue rest) :
    scan cs = .ok (⟨negative, Nat.toDigits 10 n, [], none⟩, rest) := by
  have hlead : ¬((Nat.toDigits 10 n).head? = some '0' ∧ 1 < (Nat.toDigits 10 n).length) := by
    rintro ⟨hhead, hlong⟩
    rcases Nat.eq_zero_or_pos n with rfl | hpos
    · exact absurd hlong (by decide)
    · exact head?_toDigits_ne hpos hhead
  have hdigits := scanDigits_append (fun c => isDigit_of_mem_toDigits (n := n)) (by simp) hrest
  rw [scan, hsign, hdigits]
  simp only
  rw [if_neg hlead, scanFraction_of_endsValue hrest]
  simp only
  rw [scanExponent_of_endsValue hrest]

theorem value_eq {n : Nat} (h : n < Text.wordLimit) (negative : Bool) :
    value ⟨negative, Nat.toDigits 10 n, [], none⟩ = some (wholeNumber negative n) := by
  have hvalue := Text.digitsValue_toDigits n
  have habsorb : absorb 0 (Nat.toDigits 10 n) = _ := absorb_eq (by rwa [hvalue])
  rw [value]
  simp only
  rw [habsorb, hvalue]
  rfl

theorem exists_numberText_eq {n : JsonNumber} (hn : n.IsWhole) :
    ∃ c cs, (numberText n).toList = c :: cs ∧ (c = '-' ∨ c.isDigit = true) := by
  cases n with
  | natural n =>
    obtain ⟨c, cs, hdigits, hdigit⟩ := exists_toDigits_eq n.toNat
    refine ⟨c, cs, ?_, .inr hdigit⟩
    rw [numberText, String.toList_ofList, hdigits]
  | negative n => exact ⟨'-', _, String.toList_ofList, .inl rfl⟩
  | float bits => cases hn

/-- A whole number is read back from its text. -/
theorem exists_scan_numberText {n : JsonNumber} (hn : n.IsWhole) {rest : List Char}
    (hrest : EndsValue rest) :
    ∃ numeral, scan ((numberText n).toList ++ rest) = .ok (numeral, rest) ∧
      numeral.value = some n := by
  cases n with
  | natural n =>
    have hlimit : n.toNat < Text.wordLimit := n.toNat_lt
    refine ⟨_, scan_eq false n.toNat ?_ hrest, ?_⟩
    · rw [numberText, String.toList_ofList, scanSign]
      intro cs hcs
      obtain ⟨c, digits, hdigits, hdigit⟩ := exists_toDigits_eq n.toNat
      rw [hdigits, List.cons_append, List.cons.injEq] at hcs
      rw [hcs.1] at hdigit
      cases hdigit
    · rw [value_eq hlimit, wholeNumber]
      simp
  | negative n =>
    have hlimit : n.val + 1 < Text.wordLimit := by
      have := n.isLt
      change n.val + 1 < 0x10000000000000000
      omega
    refine ⟨_, scan_eq true (n.val + 1) ?_ hrest, ?_⟩
    · rw [numberText, String.toList_ofList]
      rfl
    · rw [value_eq hlimit, wholeNumber]
      simp
  | float bits => cases hn

end Numeral

end Json

end CallFlow
