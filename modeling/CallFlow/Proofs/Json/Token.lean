import CallFlow.Json.Print
import CallFlow.Json.Token
import CallFlow.Proofs.Json.Numeral

/-!
# Tokens of written values

Both ways of writing a value, compact and laid out over lines, are cut into the same tokens: one per
bracket, separator, literal and number, and one per string whatever characters it holds.  The only
numbers considered are whole ones.
-/

namespace CallFlow.Json

/-! ## Strings -/

/-- The piece that a written character is scanned as: control characters without a letter of their
own are written as UTF-16 units. -/
def pieceOf (c : Char) : Piece :=
  if c < ' ' ∧ c ∉ ['\x08', '\x0c', '\n', '\r', '\t'] then .unit c.toNat else .char c

theorem hexValue?_hexDigit {n : Nat} (h : n < 32) :
    hexValue? '0' '0' (hexDigit (n / 16)) (hexDigit (n % 16)) = some n := by
  have hall : ∀ n < 32, hexValue? '0' '0' (hexDigit (n / 16)) (hexDigit (n % 16)) = some n := by
    decide
  exact hall n h

theorem scanPieces_escapeChar (c : Char) (read : List Piece) (cs : List Char) :
    scanPieces read (escapeChar c ++ cs) = scanPieces (pieceOf c :: read) cs := by
  unfold escapeChar
  split
  · rfl
  · rfl
  · rfl
  · rfl
  · rfl
  · rfl
  · rfl
  · next hquote hslash hback hfeed hline hreturn htab =>
    by_cases hcontrol : c < ' '
    · have hcode : c.toNat < 32 := hcontrol
      have hpiece : pieceOf c = .unit c.toNat := by
        rw [pieceOf, if_pos]
        simp_all
      rw [if_pos hcontrol, hpiece]
      simp only [List.cons_append, List.nil_append]
      rw [scanPieces, hexValue?_hexDigit hcode]
    · have hpiece : pieceOf c = .char c := by
        rw [pieceOf, if_neg]
        exact fun h => hcontrol h.1
      rw [if_neg hcontrol, hpiece, List.singleton_append, scanPieces]
      · rw [if_neg hcontrol]
      · exact hquote
      · rintro _ _ _ _ _ rfl
        exact absurd rfl hslash
      · rintro _ rfl
        exact absurd rfl hslash
      · rintro _ _ rfl
        exact absurd rfl hslash
      · rintro rfl
        exact absurd rfl hslash

theorem scanPieces_flatMap (s : List Char) (read : List Piece) (cs : List Char) :
    scanPieces read (s.flatMap escapeChar ++ cs) =
      scanPieces ((s.map pieceOf).reverse ++ read) cs := by
  induction s generalizing read with
  | nil => rfl
  | cons c s ih =>
    rw [List.flatMap_cons, List.append_assoc, scanPieces_escapeChar, ih, List.map_cons,
      List.reverse_cons, List.append_assoc, List.singleton_append]

/-- A unit below the surrogates is a character by itself, whatever comes behind it. -/
theorem joinPieces_unit {n : Nat} (h : n < 0xD800) (pieces : List Piece) :
    joinPieces (.unit n :: pieces) = (joinPieces pieces).map (Char.ofNat n :: ·) := by
  have hlow : isLowSurrogate n = false := by
    have : ¬0xDC00 ≤ n := by omega
    simp [isLowSurrogate, this]
  have hhigh : isHighSurrogate n = false := by
    have : ¬0xD800 ≤ n := by omega
    simp [isHighSurrogate, this]
  cases pieces with
  | nil => simp [joinPieces, hlow, hhigh]
  | cons piece pieces =>
    cases piece with
    | char c => simp [joinPieces, hlow, hhigh]
    | unit low => simp [joinPieces, hlow, hhigh]

theorem joinPieces_pieceOf (c : Char) (pieces : List Piece) :
    joinPieces (pieceOf c :: pieces) = (joinPieces pieces).map (c :: ·) := by
  rw [pieceOf]
  split
  · next h =>
    have hcode : c.toNat < 32 := h.1
    rw [joinPieces_unit (by omega), Char.ofNat_toNat]
  · rw [joinPieces]

theorem joinPieces_map_pieceOf (s : List Char) : joinPieces (s.map pieceOf) = .ok s := by
  induction s with
  | nil => rfl
  | cons c s ih =>
    rw [List.map_cons, joinPieces_pieceOf, ih]
    rfl

/-- A string is read back from behind its opening quote, whatever characters it holds. -/
theorem scanString_escaped (s : String) (cs : List Char) :
    scanString (s.toList.flatMap escapeChar ++ '"' :: cs) = (.string (.ok s), cs) := by
  rw [scanString, scanPieces_flatMap, scanPieces]
  simp only [List.append_nil, List.reverse_reverse, joinPieces_map_pieceOf]
  rw [Except.map, String.ofList_toList]

/-! ## One token at a time -/

theorem tokens_nil : tokens [] = [] := by
  rw [tokens]

theorem tokens_space {c : Char} (h : isSpace c = true) (cs : List Char) :
    tokens (c :: cs) = tokens cs := by
  rw [tokens, if_pos h]

theorem tokens_cons {c : Char} {token : Token} {cs rest : List Char} (h : isSpace c = false)
    (hscan : scanToken c cs = (token, rest)) : tokens (c :: cs) = token :: tokens rest := by
  rw [tokens, if_neg (by simp [h]), hscan]

theorem tokens_arrayStart (cs : List Char) : tokens ('[' :: cs) = .arrayStart :: tokens cs :=
  tokens_cons rfl rfl

theorem tokens_arrayEnd (cs : List Char) : tokens (']' :: cs) = .arrayEnd :: tokens cs :=
  tokens_cons rfl rfl

theorem tokens_objectStart (cs : List Char) : tokens ('\x7b' :: cs) = .objectStart :: tokens cs :=
  tokens_cons rfl rfl

theorem tokens_objectEnd (cs : List Char) : tokens ('\x7d' :: cs) = .objectEnd :: tokens cs :=
  tokens_cons rfl rfl

theorem tokens_colon (cs : List Char) : tokens (':' :: cs) = .colon :: tokens cs :=
  tokens_cons rfl rfl

theorem tokens_comma (cs : List Char) : tokens (',' :: cs) = .comma :: tokens cs :=
  tokens_cons rfl rfl

theorem tokens_newLine (level : Nat) (cs : List Char) :
    tokens (newLine level ++ cs) = tokens cs := by
  rw [newLine, List.cons_append, tokens_space rfl]
  induction 2 * level with
  | zero => rfl
  | succ n ih => rw [List.replicate_succ, List.cons_append, tokens_space rfl, ih]

theorem tokens_stringText (s : String) (cs : List Char) :
    tokens (stringText s ++ cs) = .string (.ok s) :: tokens cs := by
  rw [stringText, List.cons_append, List.cons_append, List.append_assoc, List.singleton_append]
  exact tokens_cons rfl (scanString_escaped s cs)

theorem scanToken_eq_scanNumber {c : Char} (h : c = '-' ∨ c.isDigit = true) (cs : List Char) :
    scanToken c cs = scanNumber (c :: cs) := by
  unfold scanToken
  split
  case h_11 => rw [if_pos (by simpa using h)]
  all_goals rcases h with h | h <;> cases h

theorem tokens_numberText {n : JsonNumber} (hn : n.IsWhole) {rest : List Char}
    (hrest : EndsValue rest) :
    tokens ((numberText n).toList ++ rest) = .number (some n) :: tokens rest := by
  obtain ⟨numeral, hscan, hvalue⟩ := Numeral.exists_scan_numberText hn hrest
  obtain ⟨c, cs, htext, hfirst⟩ := Numeral.exists_numberText_eq hn
  rw [htext, List.cons_append] at hscan ⊢
  apply tokens_cons
  · rcases hfirst with rfl | hdigit
    · rfl
    · rw [isSpace]
      have hother : ∀ d : Char, d.isDigit = false → (c == d) = false := by
        rintro d hd
        apply beq_false_of_ne
        rintro rfl
        rw [hdigit] at hd
        cases hd
      rw [hother _ rfl, hother _ rfl, hother _ rfl, hother _ rfl]
      rfl
  · rw [scanToken_eq_scanNumber hfirst, scanNumber, hscan]
    simp only [hvalue]

end CallFlow.Json
