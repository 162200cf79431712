import CallFlow.Proofs.Http.Address

/-!
# Encoded and decoded texts

Encoding the characters that may not stand in a path loses nothing: decoding finds the same bytes as
in the text itself.  These need not be the bytes that spell the text, since the text may itself have
a percent sign with two digits behind it.  Such an escape makes the decoded text shorter, and where
there is none decoding changes nothing.
-/

namespace CallFlow.Http

open Text

/-- The bytes that spell a text. -/
def bytes (cs : List Char) : List UInt8 :=
  cs.flatMap String.utf8EncodeChar

theorem bytes_cons (c : Char) (cs : List Char) :
    bytes (c :: cs) = String.utf8EncodeChar c ++ bytes cs :=
  List.flatMap_cons

theorem toByteArray_bytes (cs : List Char) :
    (bytes cs).toByteArray = (String.ofList cs).toByteArray :=
  String.toByteArray_ofList.symm

/-- The bytes that spell a text spell no other. -/
theorem bytes_inj {cs ds : List Char} : bytes cs = bytes ds ↔ cs = ds := by
  rw [← List.toByteArray_inj, toByteArray_bytes, toByteArray_bytes, String.toByteArray_inj,
    String.ofList_inj]

/-- A text that leaves out characters of another is spelled with fewer bytes. -/
theorem eq_or_length_bytes_lt {cs ds : List Char} (h : cs.Sublist ds) :
    cs = ds ∨ (bytes cs).length < (bytes ds).length := by
  induction h with
  | slnil => exact .inl rfl
  | @cons cs ds c _ ih =>
    have hpos := Char.utf8Size_pos c
    refine .inr ?_
    rw [bytes_cons, List.length_append, String.length_utf8EncodeChar]
    rcases ih with rfl | hlt <;> omega
  | @cons_cons cs ds c _ ih =>
    rw [bytes_cons, bytes_cons, List.length_append, List.length_append, Nat.add_lt_add_iff_left,
      List.cons_inj_right]
    exact ih

/-- Whether a character is a digit of percent-encoding. -/
def isHexDigit (c : Char) : Bool :=
  (hexDigit? c).isSome

/-- A percent sign with two digits behind it occurs in a text. -/
def HasEscape (cs : List Char) : Prop :=
  ∃ high low, isHexDigit high = true ∧ isHexDigit low = true ∧ ['%', high, low] <:+: cs

/-- Whether a text starts with two digits. -/
def startsWithDigits : List Char → Bool
  | high :: low :: _ => isHexDigit high && isHexDigit low
  | _ => false

theorem startsWithDigits_iff {cs : List Char} : startsWithDigits cs = true ↔
    ∃ high low behind, cs = high :: low :: behind ∧ isHexDigit high = true ∧
      isHexDigit low = true := by
  constructor
  · intro h
    match cs, h with
    | high :: low :: behind, h =>
      obtain ⟨hhigh, hlow⟩ := Bool.and_eq_true_iff.mp h
      exact ⟨high, low, behind, rfl, hhigh, hlow⟩
  · rintro ⟨high, low, behind, rfl, hhigh, hlow⟩
    exact Bool.and_eq_true_iff.mpr ⟨hhigh, hlow⟩

/-- A text is read escape by escape, and one character at a time in between. -/
@[elab_as_elim]
theorem escapeInduction {motive : List Char → Prop} (nil : motive [])
    (escape : ∀ high low behind, isHexDigit high = true → isHexDigit low = true →
      motive behind → motive ('%' :: high :: low :: behind))
    (plain : ∀ c cs, ¬(c = '%' ∧ startsWithDigits cs = true) → motive cs → motive (c :: cs))
    (cs : List Char) : motive cs := by
  induction hn : cs.length using Nat.strong_induction_on generalizing cs with
  | _ n ih =>
  cases cs with
  | nil => exact nil
  | cons c cs =>
    rw [List.length_cons] at hn
    by_cases hescape : c = '%' ∧ startsWithDigits cs = true
    · obtain ⟨rfl, hdigits⟩ := hescape
      obtain ⟨high, low, behind, rfl, hhigh, hlow⟩ := startsWithDigits_iff.mp hdigits
      rw [List.length_cons, List.length_cons] at hn
      exact escape high low behind hhigh hlow (ih behind.length (by omega) behind rfl)
    · exact plain c cs hescape (ih cs.length (by omega) cs rfl)

theorem hasEscape_cons_iff {c : Char} {cs : List Char} : HasEscape (c :: cs) ↔
    (c = '%' ∧ startsWithDigits cs = true) ∨ HasEscape cs := by
  constructor
  · rintro ⟨high, low, hhigh, hlow, hinfix⟩
    rcases List.infix_cons_iff.mp hinfix with ⟨behind, hbehind⟩ | hrest
    · obtain ⟨rfl, rfl⟩ := List.cons.inj hbehind
      exact .inl ⟨rfl, startsWithDigits_iff.mpr ⟨high, low, behind, rfl, hhigh, hlow⟩⟩
    · exact .inr ⟨high, low, hhigh, hlow, hrest⟩
  · rintro (⟨rfl, hdigits⟩ | ⟨high, low, hhigh, hlow, hrest⟩)
    · obtain ⟨high, low, behind, rfl, hhigh, hlow⟩ := startsWithDigits_iff.mp hdigits
      exact ⟨high, low, hhigh, hlow, [], behind, rfl⟩
    · exact ⟨high, low, hhigh, hlow, List.infix_cons hrest⟩

theorem not_hasEscape_nil : ¬HasEscape [] := by
  rintro ⟨high, low, -, -, hinfix⟩
  exact absurd (List.infix_nil.mp hinfix) (List.cons_ne_nil _ _)

/-! ## Decoding from the front -/

namespace Host

theorem decodeBytes_escape {high low : Char} {a b : Nat} (ha : hexDigit? high = some a)
    (hb : hexDigit? low = some b) (cs : List Char) :
    decodeBytes ('%' :: high :: low :: cs) = UInt8.ofNat (16 * a + b) :: decodeBytes cs := by
  rw [decodeBytes, ha, hb]

theorem exists_decodeBytes_escape {high low : Char} (hhigh : isHexDigit high = true)
    (hlow : isHexDigit low = true) :
    ∃ byte, ∀ cs, decodeBytes ('%' :: high :: low :: cs) = byte :: decodeBytes cs := by
  obtain ⟨a, ha⟩ := Option.isSome_iff_exists.mp hhigh
  obtain ⟨b, hb⟩ := Option.isSome_iff_exists.mp hlow
  exact ⟨_, decodeBytes_escape ha hb⟩

/-- A character that starts no escape stands for itself. -/
theorem decodeBytes_cons {c : Char} {cs : List Char}
    (h : ¬(c = '%' ∧ startsWithDigits cs = true)) :
    decodeBytes (c :: cs) = String.utf8EncodeChar c ++ decodeBytes cs := by
  by_cases hlong : c = '%' ∧ ∃ high low behind, cs = high :: low :: behind
  · obtain ⟨rfl, high, low, behind, rfl⟩ := hlong
    have hdigits : ¬(isHexDigit high && isHexDigit low) = true := fun hboth => h ⟨rfl, hboth⟩
    rw [isHexDigit, isHexDigit] at hdigits
    rw [decodeBytes]
    split
    · next ha hb => exact absurd (by simp [ha, hb]) hdigits
    · rfl
  · rw [decodeBytes]
    rintro high low behind rfl rfl
    exact hlong ⟨rfl, high, low, behind, rfl⟩

/-- A text is decoded to the text that its decoded bytes spell. -/
theorem decodeText?_eq_some_iff {cs : List Char} {text : String} :
    decodeText? cs = some text ↔ decodeBytes cs = bytes text.toList := by
  have harray : ByteArray.mk (decodeBytes cs).toArray = (decodeBytes cs).toByteArray :=
    ByteArray.ext List.data_toByteArray.symm
  have htext : (bytes text.toList).toByteArray = text.toByteArray := by
    rw [toByteArray_bytes, String.ofList_toList]
  rw [decodeText?, harray, String.fromUTF8?]
  constructor
  · intro h
    split at h
    · obtain rfl := Option.some.inj h
      exact (List.toByteArray_inj.mp htext).symm
    · cases h
  · intro h
    rw [h, htext, dif_pos text.isValidUTF8]
    rfl

end Host

/-! ## Digits -/

theorem hexDigit?_hexDigit : ∀ n < 16, hexDigit? (Url.hexDigit n) = some n := by
  decide

theorem isPlain_of_isHexDigit {c : Char} (h : isHexDigit c = true) : isPlain c = true := by
  have hplain : isPlain c =
      ((((c.isUpper || c.isLower) || c.isDigit) || c == '-') || c == '_') := rfl
  rw [isHexDigit, hexDigit?] at h
  rw [hplain]
  split at h
  · next hdigit =>
    have hc : c.isDigit = true := Bool.and_eq_true_iff.mpr
      ⟨decide_eq_true hdigit.1, decide_eq_true hdigit.2⟩
    rw [hc, Bool.or_true, Bool.true_or, Bool.true_or]
  · split at h
    · next hlower =>
      have hc : c.isLower = true := Bool.and_eq_true_iff.mpr ⟨decide_eq_true hlower.1,
        decide_eq_true (Char.le_trans hlower.2 (show 'f' ≤ 'z' by decide))⟩
      rw [hc, Bool.or_true, Bool.true_or, Bool.true_or, Bool.true_or]
    · split at h
      · next hupper =>
        have hc : c.isUpper = true :=
          decide_eq_true ⟨hupper.1, Char.le_trans hupper.2 (show 'F' ≤ 'Z' by decide)⟩
        rw [hc, Bool.true_or, Bool.true_or, Bool.true_or, Bool.true_or]
      · cases h

namespace Url

theorem isEncodedInPath_of_isHexDigit {c : Char} (h : isHexDigit c = true) :
    isEncodedInPath c = false :=
  (inert_of_isPlain (isPlain_of_isHexDigit h)).1

theorem encode_cons_of_not {c : Char} (hc : isEncodedInPath c = false) (cs : List Char) :
    encode isEncodedInPath (c :: cs) = c :: encode isEncodedInPath cs := by
  rw [encode, List.flatMap_cons, if_neg (by simp [hc])]
  rfl

theorem encode_cons {c : Char} (hc : isEncodedInPath c = true) (cs : List Char) :
    encode isEncodedInPath (c :: cs) =
      (String.utf8EncodeChar c).flatMap encodeByte ++ encode isEncodedInPath cs := by
  rw [encode, List.flatMap_cons, if_pos hc]
  rfl

/-- Encoding neither makes nor breaks a digit at the start of a text. -/
theorem exists_encode_cons (c : Char) (cs : List Char) :
    ∃ first rest, encode isEncodedInPath (c :: cs) = first :: rest ∧
      isHexDigit first = isHexDigit c := by
  by_cases hc : isEncodedInPath c = true
  · have hdigit : isHexDigit c = false := by
      refine Bool.eq_false_iff.mpr fun hdigit => ?_
      rw [isEncodedInPath_of_isHexDigit hdigit] at hc
      cases hc
    obtain ⟨byte, more, hbytes⟩ :=
      List.exists_cons_of_ne_nil (String.utf8EncodeChar_ne_nil (c := c))
    refine ⟨'%', [hexDigit (byte.toNat / 16), hexDigit (byte.toNat % 16)] ++
      more.flatMap encodeByte ++ encode isEncodedInPath cs, ?_, hdigit.symm⟩
    rw [encode_cons hc, hbytes]
    rfl
  · exact ⟨c, _, encode_cons_of_not (Bool.eq_false_iff.mpr hc) cs, rfl⟩

theorem startsWithDigits_encode (cs : List Char) :
    startsWithDigits (encode isEncodedInPath cs) = startsWithDigits cs := by
  cases cs with
  | nil => rfl
  | cons c cs =>
    by_cases hc : isHexDigit c = true
    · rw [encode_cons_of_not (isEncodedInPath_of_isHexDigit hc)]
      cases cs with
      | nil => rfl
      | cons d cs =>
        obtain ⟨second, rest, hencode, hsecond⟩ := exists_encode_cons d cs
        rw [hencode, startsWithDigits, startsWithDigits, hsecond]
    · have hnone {d : Char} (hd : isHexDigit d = isHexDigit c) (ds : List Char) :
          startsWithDigits (d :: ds) = false := by
        rw [Bool.not_eq_true] at hc
        cases ds <;> simp [startsWithDigits, hd, hc]
      obtain ⟨first, rest, hencode, hfirst⟩ := exists_encode_cons c cs
      rw [hencode, hnone hfirst, hnone rfl]

end Url

namespace Host

/-! ## Decoding what was encoded -/

theorem decodeBytes_encodeByte (byte : UInt8) (cs : List Char) :
    decodeBytes (Url.encodeByte byte ++ cs) = byte :: decodeBytes cs := by
  have hlt : byte.toNat < 256 := UInt8.toNat_lt byte
  have hhigh := hexDigit?_hexDigit (byte.toNat / 16) (by omega)
  have hlow := hexDigit?_hexDigit (byte.toNat % 16) (by omega)
  have hbyte : UInt8.ofNat (16 * (byte.toNat / 16) + byte.toNat % 16) = byte := by
    rw [Nat.div_add_mod, UInt8.ofNat_toNat]
  exact (decodeBytes_escape hhigh hlow cs).trans (congrArg (· :: decodeBytes cs) hbyte)

theorem decodeBytes_flatMap_encodeByte (found : List UInt8) (cs : List Char) :
    decodeBytes (found.flatMap Url.encodeByte ++ cs) = found ++ decodeBytes cs := by
  induction found with
  | nil => rfl
  | cons byte found ih =>
    rw [List.flatMap_cons, List.append_assoc, decodeBytes_encodeByte, ih, List.cons_append]

/-- Decoding does not tell an encoded text from the text itself. -/
theorem decodeBytes_encode (cs : List Char) :
    decodeBytes (Url.encode Url.isEncodedInPath cs) = decodeBytes cs := by
  induction cs using escapeInduction with
  | nil => rfl
  | escape high low behind hhigh hlow ih =>
    obtain ⟨byte, hbyte⟩ := exists_decodeBytes_escape hhigh hlow
    rw [Url.encode_cons_of_not (by decide),
      Url.encode_cons_of_not (Url.isEncodedInPath_of_isHexDigit hhigh),
      Url.encode_cons_of_not (Url.isEncodedInPath_of_isHexDigit hlow), hbyte, hbyte, ih]
  | plain c cs hplain ih =>
    rw [decodeBytes_cons hplain]
    by_cases hc : Url.isEncodedInPath c = true
    · rw [Url.encode_cons hc, decodeBytes_flatMap_encodeByte, ih]
    · rw [← Url.startsWithDigits_encode] at hplain
      rw [Url.encode_cons_of_not (Bool.eq_false_iff.mpr hc), decodeBytes_cons hplain, ih]

/-! ## How much is decoded -/

/-- Without an escape decoding changes nothing, and with one it shortens the text. -/
theorem decodeBytes_cases (cs : List Char) :
    (decodeBytes cs = bytes cs ∧ ¬HasEscape cs) ∨
      ((decodeBytes cs).length < (bytes cs).length ∧ HasEscape cs) := by
  induction cs using escapeInduction with
  | nil => exact .inl ⟨rfl, not_hasEscape_nil⟩
  | escape high low behind hhigh hlow ih =>
    obtain ⟨byte, hbyte⟩ := exists_decodeBytes_escape hhigh hlow
    have hle : (decodeBytes behind).length ≤ (bytes behind).length := by
      rcases ih with ⟨heq, -⟩ | ⟨hless, -⟩
      · rw [heq]
      · exact hless.le
    refine .inr ⟨?_, high, low, hhigh, hlow, [], behind, rfl⟩
    rw [hbyte, bytes_cons, bytes_cons, bytes_cons, List.length_cons, List.length_append,
      List.length_append, List.length_append, String.length_utf8EncodeChar,
      String.length_utf8EncodeChar]
    have hpercent := Char.utf8Size_pos '%'
    have hdigit := Char.utf8Size_pos high
    omega
  | plain c cs hplain ih =>
    rw [decodeBytes_cons hplain, bytes_cons, hasEscape_cons_iff, or_iff_right hplain,
      List.append_cancel_left_eq, List.length_append, List.length_append, Nat.add_lt_add_iff_left]
    exact ih

theorem length_decodeBytes_le (cs : List Char) :
    (decodeBytes cs).length ≤ (bytes cs).length := by
  rcases decodeBytes_cases cs with ⟨heq, -⟩ | ⟨hlt, -⟩
  · rw [heq]
  · exact hlt.le

theorem decodeBytes_eq_iff {cs : List Char} : decodeBytes cs = bytes cs ↔ ¬HasEscape cs := by
  rcases decodeBytes_cases cs with ⟨heq, hnone⟩ | ⟨hlt, hsome⟩
  · exact iff_of_true heq hnone
  · exact iff_of_false (fun heq => hlt.ne (congrArg _ heq)) (not_not_intro hsome)

end Host

end CallFlow.Http
