import CallFlow.Config.Environment
import CallFlow.Proofs.Json.Numeral

/-!
# Reading environment variables back

What variables are set to is read back: texts as they are, and numbers from their decimals.  A
secret is resolved in one of three ways, and the only thing that can go wrong is that a variable is
not set.
-/

namespace CallFlow

namespace Text

theorem trimChars_of_forall {cs : List Char} (h : ∀ c ∈ cs, isBlank c = false) :
    trimChars cs = cs := by
  have hkept (cs : List Char) (h : ∀ c ∈ cs, isBlank c = false) : cs.dropWhile isBlank = cs := by
    cases cs with
    | nil => rfl
    | cons c cs => rw [List.dropWhile_cons_of_neg (by simp [h c List.mem_cons_self])]
  rw [trimChars, trimWhile, hkept cs h, dropEndWhile,
    hkept _ fun c hc => h c (List.mem_reverse.mp hc), List.reverse_reverse]

theorem isBlank_of_isDigit {c : Char} (h : c.isDigit = true) : isBlank c = false := by
  obtain ⟨hlow, hhigh⟩ := Bool.and_eq_true_iff.mp h
  have hge : 0x30 ≤ c.toNat := of_decide_eq_true hlow
  have hle : c.toNat ≤ 0x39 := of_decide_eq_true hhigh
  simp only [isBlank, Bool.or_eq_false_iff, Bool.and_eq_false_iff, decide_eq_false_iff_not,
    beq_eq_false_iff_ne]
  omega

end Text

namespace Environment

variable {env : Environment} {name : String}

/-! ## Variables that are set -/

theorem require_eq_ok_iff {value : String} :
    env.require name = .ok value ↔ env name = some value := by
  rw [require]
  cases env name <;> simp

theorem exists_detail_of_require {failure : Failure} (h : env.require name = .error failure) :
    ∃ detail, failure = .config detail := by
  rw [require] at h
  cases hvalue : env name with
  | none =>
    rw [hvalue] at h
    exact ⟨_, (Except.error.inj h).symm⟩
  | some value =>
    rw [hvalue] at h
    cases h

/-- The entry of a variable is found by its name only. -/
theorem entryValue?_entry {key : String} (hname : '=' ∉ name.toList) (hkey : '=' ∉ key.toList)
    (value : String) :
    entryValue? name (key ++ "=" ++ value) = if name = key then some value else none := by
  have hentry : (key ++ "=" ++ value).toList = (key.toList ++ ['=']) ++ value.toList := by simp
  have hcut (cs : List Char) (h : '=' ∉ cs) (rest : List Char) :
      ((cs ++ ['=']) ++ rest).takeWhile (· != '=') = cs := by
    have hall : ∀ c ∈ cs, (c != '=') = true := by
      rintro c hc
      exact bne_iff_ne.mpr fun heq => h (heq ▸ hc)
    rw [List.append_assoc, List.takeWhile_append_of_pos hall]
    simp
  rw [entryValue?, hentry]
  by_cases hsame : name = key
  · subst hsame
    rw [if_pos rfl, if_pos (List.isPrefixOf_iff_prefix.mpr (List.prefix_append _ _)),
      List.drop_left, String.ofList_toList]
  · rw [if_neg hsame, if_neg]
    intro hfront
    obtain ⟨rest, hrest⟩ := List.isPrefixOf_iff_prefix.mp hfront
    have htaken := congrArg (List.takeWhile (· != '=')) hrest
    rw [hcut _ hname, hcut _ hkey] at htaken
    exact hsame (String.toList_inj.mp htaken)

/-- Variables with different names, without equals signs, are set to their values. -/
theorem ofList_eq_some {values : List (String × String)}
    (hplain : ∀ entry ∈ values, '=' ∉ entry.1.toList) (hdistinct : (values.map (·.1)).Nodup)
    {entry : String × String} (hmem : entry ∈ values) :
    ofList values entry.1 = some entry.2 := by
  induction values with
  | nil => cases hmem
  | cons first values ih =>
    obtain ⟨key, value⟩ := first
    obtain ⟨hkey, hrest⟩ := List.forall_mem_cons.mp hplain
    rw [List.map_cons, List.nodup_cons] at hdistinct
    rw [ofList, List.findSome?_cons]
    dsimp only
    rw [entryValue?_entry (hplain entry hmem) hkey]
    rcases List.mem_cons.mp hmem with rfl | hmem
    · rw [if_pos rfl]
    · have hne : entry.1 ≠ key := fun heq =>
        hdistinct.1 (heq ▸ List.mem_map.mpr ⟨entry, hmem, rfl⟩)
      rw [if_neg hne]
      exact ih hrest hdistinct.2 hmem

/-- A number of milliseconds is read back from its decimals. -/
theorem millis_of_decimals {n : UInt64} (h : env name = some (toString n.toNat))
    (default : UInt64) : env.millis name default = .ok n := by
  have hdigit : ∀ c ∈ Nat.toDigits 10 n.toNat, Text.isBlank c = false := fun c hc =>
    Text.isBlank_of_isDigit (Json.Numeral.isDigit_of_mem_toDigits hc)
  have hchars : (toString n.toNat).toList = Nat.toDigits 10 n.toNat := by
    rw [Nat.toString_eq_ofList_toDigits, String.toList_ofList]
  have hnonblank : Text.blank (toString n.toNat) = false := by
    obtain ⟨c, cs, hcs, -⟩ := Json.Numeral.exists_toDigits_eq n.toNat
    have hfirst : Text.isBlank c = false := hdigit c (hcs ▸ List.mem_cons_self)
    rw [Text.blank, hchars, hcs, List.all_cons, hfirst, Bool.false_and]
  have hfits : n.toNat < Text.wordLimit := n.toNat_lt
  have hset : env.nonBlank name = some (toString n.toNat) := by
    rw [nonBlank, h, Option.filter_some, hnonblank]
    rfl
  rw [millis, hset]
  dsimp only
  rw [hchars, Text.trimChars_of_forall hdigit, Text.readNatural_toDigits hfits]
  simp

/-- A value that is empty or not blank is the value of its variable. -/
theorem nonBlank_getD {value : String} (h : env name = some value)
    (hvalue : value = "" ∨ Text.blank value = false) : (env.nonBlank name).getD "" = value := by
  rw [nonBlank, h, Option.filter_some]
  rcases hvalue with rfl | hvalue
  · rfl
  · rw [hvalue]
    rfl

/-! ## Secrets -/

/-- A reference to a variable. -/
def referenceTo (name : String) : String :=
  "$\x7b" ++ name ++ "\x7d"

theorem toList_referenceTo (name : String) :
    (referenceTo name).toList = '$' :: '\x7b' :: (name.toList ++ ['\x7d']) := by
  simp [referenceTo]

theorem referenceTo_injective : Function.Injective referenceTo := by
  intro name other h
  have hlists := congrArg String.toList h
  rw [toList_referenceTo, toList_referenceTo, List.cons_inj_right, List.cons_inj_right,
    List.append_cancel_right_eq] at hlists
  exact String.toList_inj.mp hlists

theorem reference?_referenceTo (name : String) : reference? (referenceTo name) = some name := by
  rw [reference?, toList_referenceTo]
  simp

theorem eq_referenceTo {value : String} (h : reference? value = some name) :
    value = referenceTo name := by
  rw [reference?] at h
  split at h
  · next cs hvalue =>
    split at h
    · next hlast =>
      obtain rfl := Option.some.inj h
      obtain ⟨front, rfl⟩ := List.getLast?_eq_some_iff.mp hlast
      apply String.toList_inj.mp
      rw [hvalue, toList_referenceTo, List.dropLast_concat, String.toList_ofList]
    · cases h
  · cases h

variable {value secret fallback : String}

theorem resolveSecret_referenceTo :
    env.resolveSecret (referenceTo name) fallback = env.require name := by
  rw [resolveSecret, reference?_referenceTo]

theorem resolveSecret_of_plain (h : ∀ name, value ≠ referenceTo name) :
    env.resolveSecret value fallback =
      if Text.blank value then env.require fallback else .ok value := by
  have hnone : reference? value = none := by
    cases hreference : reference? value with
    | none => rfl
    | some name => exact absurd (eq_referenceTo hreference) (h name)
  rw [resolveSecret, hnone]

theorem not_blank_referenceTo (name : String) : Text.blank (referenceTo name) = false := by
  have hdollar : Text.isBlank '$' = false := by decide
  rw [Text.blank, toList_referenceTo, List.all_cons, hdollar, Bool.false_and]

/-- What a secret stands for: a reference for the value of its variable, a blank value for that of
the variable `fallback`, and any other value for itself. -/
inductive Resolves (env : Environment) (fallback : String) : String → String → Prop
  | reference {name secret : String} (hset : env name = some secret) :
    Resolves env fallback (referenceTo name) secret
  | blank {value secret : String} (hblank : Text.blank value = true)
    (hset : env fallback = some secret) : Resolves env fallback value secret
  | itself {value : String} (hblank : Text.blank value = false)
    (hplain : ∀ name, value ≠ referenceTo name) : Resolves env fallback value value

theorem resolveSecret_eq_ok_iff :
    env.resolveSecret value fallback = .ok secret ↔ env.Resolves fallback value secret := by
  constructor
  · intro h
    by_cases hreference : ∃ name, value = referenceTo name
    · obtain ⟨name, rfl⟩ := hreference
      rw [resolveSecret_referenceTo, require_eq_ok_iff] at h
      exact .reference h
    · have hplain := not_exists.mp hreference
      rw [resolveSecret_of_plain hplain] at h
      split at h
      · next hblank => exact .blank hblank (require_eq_ok_iff.mp h)
      · next hblank =>
        obtain rfl := Except.ok.inj h
        exact .itself (by simpa using hblank) hplain
  · intro h
    cases h with
    | reference hset => rw [resolveSecret_referenceTo, require_eq_ok_iff.mpr hset]
    | blank hblank hset =>
      have hplain : ∀ name, value ≠ referenceTo name := by
        rintro name rfl
        rw [not_blank_referenceTo] at hblank
        cases hblank
      rw [resolveSecret_of_plain hplain, if_pos hblank, require_eq_ok_iff.mpr hset]
    | itself hblank hplain => rw [resolveSecret_of_plain hplain, hblank, if_neg Bool.false_ne_true]

theorem exists_detail_of_resolveSecret {failure : Failure}
    (h : env.resolveSecret value fallback = .error failure) :
    ∃ detail, failure = .config detail := by
  rw [resolveSecret] at h
  split at h
  · exact exists_detail_of_require h
  · split at h
    · exact exists_detail_of_require h
    · cases h

end Environment

end CallFlow
