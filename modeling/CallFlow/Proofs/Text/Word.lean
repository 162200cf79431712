import CallFlow.Text.Blank
import Mathlib.Data.List.TakeWhile

/-!
# Trimming and words

Blank tests, trimming and splitting into words are written separately.  They agree: a text is blank
exactly when it has no words, and trimming leaves its words alone.  So what an author wrote counts by
its words only, wherever it is tested, trimmed and laid out on one line.
-/

namespace CallFlow.Text

/-! ## Blank characters at the two ends -/

theorem dropEndWhile_append_takeEndWhile (test : Char → Bool) (cs : List Char) :
    dropEndWhile test cs ++ takeEndWhile test cs = cs := by
  rw [dropEndWhile, takeEndWhile, ← List.reverse_append, List.takeWhile_append_dropWhile,
    List.reverse_reverse]

theorem flushWord_eq_nil_iff {word : List Char} {behind : List (List Char)} :
    flushWord word behind = [] ↔ word = [] ∧ behind = [] := by
  cases word <;> simp [flushWord]

theorem wordsOfChars_cons_of_isBlank {c : Char} (h : isBlank c = true) (cs : List Char) :
    wordsOfChars (c :: cs) = wordsOfChars cs := by
  simp [wordsOfChars, wordsFrom, h, flushWord]

theorem wordsOfChars_dropWhile (cs : List Char) :
    wordsOfChars (cs.dropWhile isBlank) = wordsOfChars cs := by
  induction cs with
  | nil => rfl
  | cons c cs ih =>
    by_cases hblank : isBlank c = true
    · rw [List.dropWhile_cons_of_pos hblank, ih, wordsOfChars_cons_of_isBlank hblank]
    · rw [List.dropWhile_cons_of_neg hblank]

/-- Blank characters behind a text add nothing to its words. -/
theorem wordsFrom_append_of_forall (cs : List Char) {blanks : List Char}
    (h : ∀ c ∈ blanks, isBlank c = true) : wordsFrom (cs ++ blanks) = wordsFrom cs := by
  induction cs with
  | cons c cs ih => rw [List.cons_append, wordsFrom, wordsFrom, ih]
  | nil =>
    rw [List.nil_append]
    induction blanks with
    | nil => rfl
    | cons c blanks ih =>
      obtain ⟨hc, hblanks⟩ := List.forall_mem_cons.mp h
      have hnone : wordsFrom blanks = ([], []) := ih hblanks
      simp [wordsFrom, hnone, hc, flushWord]

theorem wordsOfChars_dropEndWhile (cs : List Char) :
    wordsOfChars (dropEndWhile isBlank cs) = wordsOfChars cs := by
  have hblanks : ∀ c ∈ takeEndWhile isBlank cs, isBlank c = true := by
    intro c hc
    rw [takeEndWhile, List.mem_reverse] at hc
    exact List.mem_takeWhile_imp hc
  have hsplit := wordsFrom_append_of_forall (dropEndWhile isBlank cs) hblanks
  rw [dropEndWhile_append_takeEndWhile] at hsplit
  rw [wordsOfChars, wordsOfChars, hsplit]

/-- Trimming leaves the words of a text alone. -/
theorem words_trim (s : String) : words (trim s) = words s := by
  have hchars : wordsOfChars (trimChars s.toList) = wordsOfChars s.toList := by
    rw [trimChars, trimWhile, wordsOfChars_dropEndWhile, wordsOfChars_dropWhile]
  rw [words, trim, String.toList_ofList, hchars, words]

/-! ## Texts without words -/

theorem wordsOfChars_eq_nil_iff (cs : List Char) :
    wordsOfChars cs = [] ↔ cs.all isBlank = true := by
  induction cs with
  | nil => simp [wordsOfChars, wordsFrom, flushWord]
  | cons c cs ih =>
    cases hblank : isBlank c with
    | true => rw [wordsOfChars_cons_of_isBlank hblank, ih, List.all_cons, hblank, Bool.true_and]
    | false =>
      have hword : wordsOfChars (c :: cs) ≠ [] := by
        simp [wordsOfChars, wordsFrom, hblank, flushWord_eq_nil_iff]
      simp [hword, hblank]

/-- A text is blank exactly when it has no words. -/
theorem blank_iff_words_eq_nil (s : String) : blank s = true ↔ words s = [] := by
  rw [words, List.map_eq_nil_iff, wordsOfChars_eq_nil_iff, blank]

theorem singleLine_eq_of_words_eq {s t : String} (h : words s = words t) :
    singleLine s = singleLine t := by
  rw [singleLine, singleLine, h]

/-! ## Optional texts -/

/-- The words of an optional text; a missing text has none. -/
def wordsOf (s : Option String) : List String :=
  (s.map words).getD []

/-- What is kept of an optional text has its words, and nothing is kept of a text without words. -/
theorem nonBlank_cases (s : Option String) :
    (wordsOf s = [] ∧ nonBlank s = none) ∨
      ∃ kept, wordsOf s ≠ [] ∧ nonBlank s = some kept ∧ words kept = wordsOf s := by
  cases s with
  | none => exact .inl ⟨rfl, rfl⟩
  | some text =>
    by_cases hblank : blank text = true
    · refine .inl ⟨(blank_iff_words_eq_nil text).mp hblank, ?_⟩
      rw [nonBlank, if_pos hblank]
    · have hwords : words text ≠ [] := fun hnil => hblank ((blank_iff_words_eq_nil text).mpr hnil)
      refine .inr ⟨trim text, hwords, ?_, words_trim text⟩
      rw [nonBlank, if_neg hblank]

/-- Of two optional texts with the same words either nothing is kept, or what is kept of them is the
same on one line. -/
theorem nonBlank_cases_of_wordsOf_eq {s t : Option String} (h : wordsOf s = wordsOf t) :
    (nonBlank s = none ∧ nonBlank t = none) ∨
      ∃ kept other, nonBlank s = some kept ∧ nonBlank t = some other ∧
        singleLine kept = singleLine other := by
  rcases nonBlank_cases s with ⟨hnil, hnone⟩ | ⟨kept, hwords, hkept, hsame⟩
  · rcases nonBlank_cases t with ⟨-, hnone'⟩ | ⟨other, hwords, -, -⟩
    · exact .inl ⟨hnone, hnone'⟩
    · exact absurd (h.symm.trans hnil) hwords
  · rcases nonBlank_cases t with ⟨hnil, -⟩ | ⟨other, -, hother, hsame'⟩
    · exact absurd (h.trans hnil) hwords
    · have hkept_other : words kept = words other := by rw [hsame, hsame', h]
      exact .inr ⟨kept, other, hkept, hother, singleLine_eq_of_words_eq hkept_other⟩

end CallFlow.Text
