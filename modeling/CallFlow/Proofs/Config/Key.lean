import CallFlow.Config.Basic
import CallFlow.Proofs.Config.Environment
import CallFlow.Proofs.Text.Word

/-!
# The key of the remote service

The key may stand in the configuration itself, or in a variable that the configuration refers to.
Wherever it comes from, a placeholder that was left in its place is not accepted, and neither is a
reference that was not resolved.  The marks of both are looked for at the very front of a key, so
blank characters behind a key make no difference, and blank characters in front of it hide them.
-/

namespace CallFlow

/-- A text without the blank characters at its end. -/
def Text.trimEnd (s : String) : String :=
  String.ofList (dropEndWhile isBlank s.toList)

/-- What is left of a text is how the text begins. -/
theorem Text.exists_toList_eq_trimEnd (s : String) :
    ∃ blanks, s.toList = (trimEnd s).toList ++ blanks := by
  refine ⟨takeEndWhile isBlank s.toList, ?_⟩
  rw [trimEnd, String.toList_ofList, dropEndWhile_append_takeEndWhile]

namespace DeployConfig

open Environment

/-! ## Genuine keys -/

/-- What a key starts with that is none: a placeholder, or a reference to a variable. -/
def placeholderMarks : List String :=
  ["your_", "$\x7b"]

/-- A key that may be one. -/
structure Genuine (key : String) : Prop where
  nonblank : Text.blank key = false
  unmarked : ∀ mark ∈ placeholderMarks, ¬mark.toList <+: key.toList

theorem checkApiKey_eq_ok_iff {key : String} : checkApiKey key = .ok () ↔ Genuine key := by
  have hmarks : (∀ mark ∈ placeholderMarks, ¬mark.toList <+: key.toList) ↔
      ("your_".toList.isPrefixOf key.toList || ['$', '\x7b'].isPrefixOf key.toList) = false := by
    rw [Bool.or_eq_false_iff, ← Bool.not_eq_true, ← Bool.not_eq_true, List.isPrefixOf_iff_prefix,
      List.isPrefixOf_iff_prefix]
    simp [placeholderMarks]
  rw [checkApiKey]
  constructor
  · intro h
    split at h
    · cases h
    · next hnonblank =>
      split at h
      · cases h
      · next hunmarked =>
        exact ⟨(Bool.not_eq_true _).mp hnonblank, hmarks.mpr ((Bool.not_eq_true _).mp hunmarked)⟩
  · rintro ⟨hnonblank, hunmarked⟩
    rw [hnonblank, if_neg Bool.false_ne_true, hmarks.mp hunmarked, if_neg Bool.false_ne_true]

theorem exists_detail_of_checkApiKey {key : String} {failure : Failure}
    (h : checkApiKey key = .error failure) : ∃ detail, failure = .config detail := by
  rw [checkApiKey] at h
  split at h
  · exact ⟨_, (Except.error.inj h).symm⟩
  · split at h
    · exact ⟨_, (Except.error.inj h).symm⟩
    · cases h

variable {config : DeployConfig} {env : Environment}

/-- A key is accepted if the configuration resolves to it and it may be one. -/
theorem resolvedApiKey_eq_ok_iff {key : String} :
    config.resolvedApiKey env = .ok key ↔
      env.Resolves apiKeyVariable config.remote.apiKey key ∧ Genuine key := by
  rw [← resolveSecret_eq_ok_iff, ← checkApiKey_eq_ok_iff, resolvedApiKey]
  cases env.resolveSecret config.remote.apiKey apiKeyVariable with
  | error failure => exact ⟨nofun, fun h => nomatch h.1⟩
  | ok secret =>
    constructor
    · intro h
      cases hcheck : checkApiKey secret with
      | error failure =>
        simp only [bind, Except.bind, hcheck] at h
        cases h
      | ok _ =>
        simp only [bind, Except.bind, hcheck] at h
        obtain rfl := Except.ok.inj h
        exact ⟨rfl, hcheck⟩
    · rintro ⟨hsame, hcheck⟩
      obtain rfl := Except.ok.inj hsame
      simp only [bind, Except.bind, hcheck]
      rfl

theorem exists_detail_of_resolvedApiKey {failure : Failure}
    (h : config.resolvedApiKey env = .error failure) : ∃ detail, failure = .config detail := by
  rw [resolvedApiKey] at h
  cases hresolved : env.resolveSecret config.remote.apiKey apiKeyVariable with
  | error cause =>
    rw [hresolved] at h
    obtain rfl := Except.error.inj h
    exact exists_detail_of_resolveSecret hresolved
  | ok secret =>
    rw [hresolved] at h
    cases hcheck : checkApiKey secret with
    | error cause =>
      simp only [bind, Except.bind, hcheck] at h
      obtain rfl := Except.error.inj h
      exact exists_detail_of_checkApiKey hcheck
    | ok _ =>
      simp only [bind, Except.bind, hcheck] at h
      cases h

/-! ## Accepted keys -/

/-- What is promised of an accepted key, where texts are `trimmed` before they are looked at: it is
neither a placeholder nor a reference, and it is the value of the variable that the configuration
refers to, if it does. -/
structure Accepted (config : DeployConfig) (env : Environment) (trimmed : String → String)
    (key : String) : Prop where
  nonblank : Text.blank key = false
  unmarked : ∀ mark ∈ placeholderMarks, ¬mark.toList <+: (trimmed key).toList
  referred : ∀ name, trimmed config.remote.apiKey = referenceTo name → env name = some key

theorem trimEnd_referenceTo (name : String) :
    Text.trimEnd (referenceTo name) = referenceTo name := by
  have hlast : Text.isBlank '\x7d' = false := by decide
  apply String.toList_inj.mp
  rw [Text.trimEnd, String.toList_ofList, toList_referenceTo, Text.dropEndWhile]
  simp [hlast]

/-- A value that is a reference but for blank characters at its end is a reference, or it is no
key. -/
theorem accepted_of_resolves {key : String}
    (hresolves : env.Resolves apiKeyVariable config.remote.apiKey key) (hgenuine : Genuine key) :
    config.Accepted env Text.trimEnd key := by
  refine ⟨hgenuine.nonblank, fun mark hmark hfront => ?_, fun name hname => ?_⟩
  · obtain ⟨blanks, hkey⟩ := Text.exists_toList_eq_trimEnd key
    refine hgenuine.unmarked mark hmark (hfront.trans ?_)
    rw [hkey]
    exact List.prefix_append _ _
  · obtain ⟨blanks, hvalue⟩ := Text.exists_toList_eq_trimEnd config.remote.apiKey
    generalize config.remote.apiKey = value at hresolves hname hvalue
    rw [hname, toList_referenceTo] at hvalue
    cases hresolves with
    | reference hset =>
      rw [trimEnd_referenceTo] at hname
      rwa [referenceTo_injective hname] at hset
    | blank hblank =>
      rw [Text.blank, hvalue, List.cons_append, List.all_cons, Bool.and_eq_true] at hblank
      cases hblank.1
    | itself =>
      refine absurd ?_ (hgenuine.unmarked "$\x7b" (by decide))
      rw [hvalue]
      exact ⟨_, rfl⟩

/-- Whether what comes of asking for a key is as it should be, where texts are `trimmed` before they
are looked at: an accepted key, or a failure of the configuration. -/
def Answers (config : DeployConfig) (env : Environment) (trimmed : String → String) :
    Except Failure String → Prop
  | .ok key => config.Accepted env trimmed key
  | .error failure => ∃ detail, failure = .config detail

/-- An accepted key is never a placeholder or an unresolved reference, whatever blank characters
stand behind it; and every genuine key that the configuration stands for is accepted. -/
theorem answers_resolvedApiKey (config : DeployConfig) (env : Environment) :
    config.Answers env Text.trimEnd (config.resolvedApiKey env) ∧
      ∀ key, config.resolvedApiKey env = .ok key ↔
        env.Resolves apiKeyVariable config.remote.apiKey key ∧ Genuine key := by
  refine ⟨?_, fun key => resolvedApiKey_eq_ok_iff⟩
  cases hresult : config.resolvedApiKey env with
  | error failure => exact exists_detail_of_resolvedApiKey hresult
  | ok key =>
    obtain ⟨hresolves, hgenuine⟩ := resolvedApiKey_eq_ok_iff.mp hresult
    exact accepted_of_resolves hresolves hgenuine

/-- Blank characters in front hide a reference: it is taken for the key itself. -/
theorem not_forall_answers_trim :
    ¬∀ (config : DeployConfig) (env : Environment),
      config.Answers env Text.trim (config.resolvedApiKey env) := by
  intro h
  let config := default.withApiKey " $\x7bKEY\x7d"
  let env := Environment.ofList [("KEY", "sk_live")]
  have hresult : config.resolvedApiKey env = .ok " $\x7bKEY\x7d" := by decide
  have haccepted := h config env
  rw [hresult] at haccepted
  exact haccepted.unmarked "$\x7b" (by decide) (by decide)

end DeployConfig

end CallFlow
