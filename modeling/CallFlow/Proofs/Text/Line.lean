import CallFlow.Text.Blank
import CallFlow.Text.Lines
import CallFlow.Text.Natural
import Mathlib.Data.List.Induction

/-!
# Reading lines back

Lines that hold no line break are read back from the text that joins them, and a number that stands
in front of a line is read back from its decimals.  Both readers are lenient, the one about carriage
returns and the other about a plus sign, so the facts are stated for what this library writes.
-/

namespace CallFlow.Text

/-! ## Texts on one line -/

/-- A text that holds no part of a line end. -/
def OneLine (s : String) : Prop :=
  ∀ c ∈ s.toList, c ≠ '\n' ∧ c ≠ '\r'

/-- A fixed text is on one line if its characters are; this is the form in which it is checked. -/
theorem oneLine_ofList {cs : List Char} (h : (cs.all fun c => c != '\n' && c != '\r') = true) :
    OneLine (String.ofList cs) := by
  rw [OneLine, String.toList_ofList]
  intro c hc
  simpa using List.all_eq_true.mp h c hc

@[simp]
theorem oneLine_append {s t : String} : OneLine (s ++ t) ↔ OneLine s ∧ OneLine t := by
  rw [OneLine, String.toList_append, List.forall_mem_append]
  rfl

theorem mem_of_mem_flushWord {word first : List Char} {behind : List (List Char)}
    (h : word ∈ flushWord first behind) : word = first ∨ word ∈ behind := by
  rw [flushWord] at h
  split at h
  · exact .inr h
  · exact List.mem_cons.mp h

theorem isBlank_false_of_mem_wordsFrom (cs : List Char) :
    (∀ c ∈ (wordsFrom cs).1, isBlank c = false) ∧
      ∀ word ∈ (wordsFrom cs).2, ∀ c ∈ word, isBlank c = false := by
  induction cs with
  | nil => simp [wordsFrom]
  | cons c cs ih =>
    obtain ⟨hfirst, hbehind⟩ := ih
    simp only [wordsFrom]
    cases hblank : isBlank c with
    | true =>
      refine ⟨by simp, fun word hword => ?_⟩
      rcases mem_of_mem_flushWord hword with rfl | hword
      · exact hfirst
      · exact hbehind word hword
    | false => exact ⟨List.forall_mem_cons.mpr ⟨hblank, hfirst⟩, hbehind⟩

/-- Words hold no blank characters. -/
theorem isBlank_false_of_mem_words {s word : String} (hword : word ∈ words s) {c : Char}
    (hc : c ∈ word.toList) : isBlank c = false := by
  obtain ⟨hfirst, hbehind⟩ := isBlank_false_of_mem_wordsFrom s.toList
  obtain ⟨cs, hcs, rfl⟩ := List.mem_map.mp hword
  rw [String.toList_ofList] at hc
  rcases mem_of_mem_flushWord hcs with rfl | hcs
  · exact hfirst c hc
  · exact hbehind cs hcs c hc

theorem oneLine_intercalate {separator : String} (hseparator : OneLine separator)
    {parts : List String} (hparts : ∀ part ∈ parts, OneLine part) :
    OneLine (separator.intercalate parts) := by
  induction parts with
  | nil => simp [OneLine]
  | cons part parts ih =>
    have hpart := hparts part List.mem_cons_self
    cases parts with
    | nil => simpa using hpart
    | cons next parts =>
      rw [String.intercalate_cons_cons, oneLine_append, oneLine_append]
      exact ⟨⟨hpart, hseparator⟩,
        ih fun other hother => hparts other (List.mem_cons_of_mem _ hother)⟩

/-- What is laid out on one line stays on one line, whatever it was. -/
@[simp]
theorem oneLine_singleLine (s : String) : OneLine (singleLine s) := by
  refine oneLine_intercalate (oneLine_ofList (by decide)) fun word hword c hc => ?_
  have hblank := isBlank_false_of_mem_words hword hc
  constructor <;> rintro rfl <;> cases hblank

@[simp]
theorem oneLine_toString (n : Nat) : OneLine (toString n) := by
  intro c hc
  rw [Nat.toString_eq_ofList_toDigits, String.toList_ofList] at hc
  have hdigit := Nat.isDigit_of_mem_toDigits (by decide) (by decide) hc
  constructor <;> rintro rfl <;> cases hdigit

/-! ## Lines -/

theorem linesOfChars_cons {c : Char} (h : c ≠ '\n' ∧ c ≠ '\r') (cs : List Char) :
    linesOfChars (c :: cs) = extendFirstLine c (linesOfChars cs) := by
  rw [linesOfChars]
  · rintro rest rfl
    exact absurd rfl h.2
  · exact h.1

theorem linesOfChars_append_break {line : List Char}
    (h : ∀ c ∈ line, c ≠ '\n' ∧ c ≠ '\r') (rest : List Char) :
    linesOfChars (line ++ '\n' :: rest) = line :: linesOfChars rest := by
  induction line with
  | nil => rfl
  | cons c line ih =>
    rw [List.forall_mem_cons] at h
    rw [List.cons_append, linesOfChars_cons h.1, ih h.2, extendFirstLine]

theorem linesOfChars_of_ne_nil {line : List Char} (h : ∀ c ∈ line, c ≠ '\n' ∧ c ≠ '\r')
    (hne : line ≠ []) : linesOfChars line = [line] := by
  induction line with
  | nil => exact absurd rfl hne
  | cons c line ih =>
    rw [List.forall_mem_cons] at h
    rw [linesOfChars_cons h.1]
    cases line with
    | nil => rfl
    | cons next line => rw [ih h.2 (List.cons_ne_nil _ _), extendFirstLine]

/-- Lines are read back from the text that joins them, if the last of them is not empty. -/
theorem lines_intercalate {parts : List String} (hparts : ∀ part ∈ parts, OneLine part)
    (hlast : parts.getLast? ≠ some "") : lines ("\n".intercalate parts) = parts := by
  induction parts with
  | nil => rfl
  | cons part parts ih =>
    rw [List.forall_mem_cons] at hparts
    cases parts with
    | nil =>
      have hne : part.toList ≠ [] := by
        intro hempty
        rw [String.toList_eq_nil_iff] at hempty
        exact hlast (by rw [hempty]; rfl)
      rw [String.intercalate_singleton, lines, linesOfChars_of_ne_nil hparts.1 hne,
        List.map_singleton, String.ofList_toList]
    | cons next parts =>
      have hrest := ih hparts.2 (by rwa [List.getLast?_cons_cons] at hlast)
      rw [lines] at hrest
      have hjoined : ("\n".intercalate (part :: next :: parts)).toList =
          part.toList ++ '\n' :: ("\n".intercalate (next :: parts)).toList := by
        simp [String.intercalate_cons_cons]
      rw [lines, hjoined, linesOfChars_append_break hparts.1, List.map_cons, hrest,
        String.ofList_toList]

/-! ## Numbers in front of lines -/

/-- A text is cut behind what has no period in it. -/
theorem cutAtPeriod_append {front : List Char} (h : '.' ∉ front) (rest : List Char) :
    cutAtPeriod (front ++ '.' :: ' ' :: rest) = some (front, rest) := by
  induction front with
  | nil => rfl
  | cons c front ih =>
    rw [List.mem_cons, not_or] at h
    rw [List.cons_append, cutAtPeriod]
    · rw [ih h.2]
      rfl
    · rintro tail rfl
      exact absurd rfl h.1

/-- What is cut off begins as the text does. -/
theorem prefix_of_cutAtPeriod {cs front rest : List Char}
    (h : cutAtPeriod cs = some (front, rest)) : front <+: cs := by
  fun_induction cutAtPeriod cs generalizing front with
  | case1 cs =>
    cases h
    exact List.nil_prefix
  | case2 c cs hcs ih =>
    obtain ⟨⟨before, after⟩, hcut, hpair⟩ := Option.map_eq_some_iff.mp h
    cases hpair
    exact List.cons_prefix_cons.mpr ⟨rfl, ih hcut⟩
  | case3 => cases h

theorem digitsValue_toDigits (n : Nat) : digitsValue 0 (Nat.toDigits 10 n) = n :=
  Nat.ofDigitChars_ten_toDigits

theorem readDigits_toDigits {n : Nat} (h : n < wordLimit) :
    readDigits (Nat.toDigits 10 n) = some n := by
  have hdigits : (Nat.toDigits 10 n).all Char.isDigit = true :=
    List.all_eq_true.mpr fun c hc => Nat.isDigit_of_mem_toDigits (by decide) (by decide) hc
  have hne : (Nat.toDigits 10 n).isEmpty = false := by simp
  rw [readDigits, digitsValue_toDigits, hdigits, hne]
  simp [h]

/-- A number below the limit is read back from its decimals. -/
theorem readNatural_toDigits {n : Nat} (h : n < wordLimit) :
    readNatural (Nat.toDigits 10 n) = some n := by
  rw [readNatural, readDigits_toDigits h]
  rintro cs hcs
  have hplus : '+' ∈ Nat.toDigits 10 n := by
    rw [hcs]
    exact List.mem_cons_self
  cases Nat.isDigit_of_mem_toDigits (by decide) (by decide) hplus

/-- What is read as a number begins with a digit or a plus sign. -/
theorem readNatural_eq_none {c : Char} (hdigit : c.isDigit = false) (hplus : c ≠ '+')
    (cs : List Char) : readNatural (c :: cs) = none := by
  rw [readNatural, readDigits]
  · simp [hdigit]
  · rintro rest hrest
    exact hplus (List.cons.inj hrest).1

end CallFlow.Text
