import CallFlow.Config.Basic
import CallFlow.Proofs.Config.Environment
import CallFlow.Proofs.Json.Document
import CallFlow.Proofs.Json.ReadBack

/-!
# Loading a configuration

A configuration may be given by environment variables or by a text.  The two are read by different
readers, and checked by the same checks.  This module shows that it makes no difference where a
configuration comes from: it is loaded from both, or the first check that it fails is reported by
both.
-/

namespace CallFlow

open Json

namespace DeployConfig

/-! ## Reading -/

/-- The variables by which a configuration is given, with their values. -/
def settings (config : DeployConfig) : List (String × String) := [
  ("VOXFLOW_REMOTE_BASE_URL", config.remote.baseUrl),
  ("VOXFLOW_REMOTE_API_KEY", config.remote.apiKey),
  ("VOXFLOW_INTEGRATION_BASE_URL", config.integrationBaseUrl),
  ("VOXFLOW_DISCOVERY_TIMEOUT_MS", toString config.discoveryTimeoutMs.toNat),
  ("VOXFLOW_PUSH_TIMEOUT_MS", toString config.pushTimeoutMs.toNat),
  ("VOXFLOW_WEBHOOK_TIMEOUT_MS", toString config.webhookTimeoutMs.toNat)]

/-- The variables of a configuration can be set. -/
theorem settings_ofList (config : DeployConfig) :
    ∀ setting ∈ config.settings, Environment.ofList config.settings setting.1 = some setting.2 := by
  intro setting hsetting
  refine Environment.ofList_eq_some ?_ ?_ hsetting
  · simp only [settings, List.forall_mem_cons]
    decide
  · simp only [settings, List.map_cons, List.map_nil]
    decide

/-- What the variables of a configuration are read as is that configuration. -/
theorem ofEnvironment_eq_checked {config : DeployConfig} {env : Environment}
    (hset : ∀ setting ∈ config.settings, env setting.1 = some setting.2)
    (hkey : config.remote.apiKey = "" ∨ Text.blank config.remote.apiKey = false) :
    ofEnvironment env = config.checked := by
  simp only [settings, List.forall_mem_cons] at hset
  obtain ⟨hremote, hapiKey, hintegration, hdiscovery, hpush, hwebhook, -⟩ := hset
  rw [ofEnvironment, Environment.require_eq_ok_iff.mpr hremote,
    Environment.require_eq_ok_iff.mpr hintegration, Environment.millis_of_decimals hdiscovery,
    Environment.millis_of_decimals hpush, Environment.millis_of_decimals hwebhook, apiKeyVariable,
    Environment.nonBlank_getD hapiKey hkey]
  rfl

section ReadBack

variable {site : Site}

theorem decoder_toJson_remote (hroom : site.HasRoom 1) (remote : RemoteConfig) :
    remoteDecoder site (Document.ofJson (.object (Members.present [
      ("base_url", some (.string remote.baseUrl)), ("api_key", some (.string remote.apiKey))]))) =
        .ok remote := by
  apply (Decoder.record_present_iff rfl (by decide)).mpr
  exact ⟨hroom.mayEnter, (remote.baseUrl, remote.apiKey, ()), ⟨rfl, rfl, trivial⟩, rfl⟩

theorem decoder_toJson (hroom : site.HasRoom 2) (config : DeployConfig) :
    decoder site (Document.ofJson config.toJson) = .ok config := by
  have hremote := decoder_toJson_remote hroom.inside config.remote
  change decoder site (Document.ofJson (.object (Members.present [
    ("remote", some (.object (Members.present [
      ("base_url", some (.string config.remote.baseUrl)),
      ("api_key", some (.string config.remote.apiKey))]))),
    ("integration_base_url", some (.string config.integrationBaseUrl)),
    ("discovery_timeout_ms", some (Json.natural config.discoveryTimeoutMs)),
    ("push_timeout_ms", some (Json.natural config.pushTimeoutMs)),
    ("webhook_timeout_ms", some (Json.natural config.webhookTimeoutMs))]))) = .ok config
  apply (Decoder.record_present_iff rfl (by decide)).mpr
  refine ⟨hroom.mayEnter, (config.remote, config.integrationBaseUrl, config.discoveryTimeoutMs,
    config.pushTimeoutMs, config.webhookTimeoutMs, ()), ?_, rfl⟩
  exact ⟨hremote, rfl, rfl, rfl, rfl, trivial⟩

end ReadBack

theorem whole_toJson (config : DeployConfig) : config.toJson.Whole := by
  refine .object ?_
  simp only [List.forall_mem_cons]
  refine ⟨.object ?_, .string _, .number trivial, .number trivial, .number trivial,
    List.forall_mem_nil _⟩
  simp only [List.forall_mem_cons]
  exact ⟨.string _, .string _, List.forall_mem_nil _⟩

/-- The texts of a configuration. -/
def texts (config : DeployConfig) : List String :=
  [compact config.toJson, pretty config.toJson]

/-- What the texts of a configuration are read as is that configuration. -/
theorem ofText_eq_checked {config : DeployConfig} {text : String} (htext : text ∈ config.texts) :
    ofText text = config.checked.mapError .rejected := by
  have hroom : Site.HasRoom 2 ⟨.text, 0⟩ := fun _ => by decide
  have hread : Decoder.ofText decoder text = .ok config := by
    simp only [texts, List.mem_cons, List.not_mem_nil, or_false] at htext
    rcases htext with rfl | rfl
    · rw [Decoder.ofText_compact decoder config.whole_toJson]
      exact decoder_toJson hroom config
    · rw [Decoder.ofText_pretty decoder config.whole_toJson]
      exact decoder_toJson hroom config
  rw [ofText, hread]

/-! ## Checking -/

/-- The checks of a configuration. -/
inductive Check where
  | remoteUrl
  | integrationUrl
  | discoveryTimeout
  | pushTimeout
  | webhookTimeout

/-- Whether an address starts with one of the two web schemes. -/
def IsWebUrl (url : String) : Prop :=
  "http://".toList <+: url.toList ∨ "https://".toList <+: url.toList

/-- What is said of an address that does not. -/
def urlComplaint (url : String) : String :=
  if url = "" then "URL must not be empty"
  else "URL `" ++ url ++ "` must start with http:// or https://"

namespace Check

/-- The checks in the order in which they are made. -/
def inOrder : List Check :=
  [remoteUrl, integrationUrl, discoveryTimeout, pushTimeout, webhookTimeout]

/-- Whether a configuration passes a check. -/
def Passes (config : DeployConfig) : Check → Prop
  | remoteUrl => IsWebUrl config.remote.baseUrl
  | integrationUrl => IsWebUrl config.integrationBaseUrl
  | discoveryTimeout => config.discoveryTimeoutMs ≠ 0
  | pushTimeout => config.pushTimeoutMs ≠ 0
  | webhookTimeout => config.webhookTimeoutMs ≠ 0

/-- What is said of a configuration that fails a check. -/
def complaint (config : DeployConfig) : Check → String
  | remoteUrl => urlComplaint config.remote.baseUrl
  | integrationUrl => urlComplaint config.integrationBaseUrl
  | discoveryTimeout => "discovery_timeout_ms must be greater than zero"
  | pushTimeout => "push_timeout_ms must be greater than zero"
  | webhookTimeout => "webhook_timeout_ms must be greater than zero"

/-- The first check that a configuration fails. -/
def FailsFirst (config : DeployConfig) (check : Check) : Prop :=
  ∃ before after, inOrder = before ++ check :: after ∧
    (∀ earlier ∈ before, earlier.Passes config) ∧ ¬check.Passes config

end Check

theorem checkUrl_cases (url : String) :
    (IsWebUrl url ∧ checkUrl url = .ok ()) ∨
      ¬IsWebUrl url ∧ checkUrl url = .error (.config (urlComplaint url)) := by
  have hweb : IsWebUrl url ↔ ("http://".toList.isPrefixOf url.toList ||
      "https://".toList.isPrefixOf url.toList) = true := by
    rw [IsWebUrl, Bool.or_eq_true, List.isPrefixOf_iff_prefix, List.isPrefixOf_iff_prefix]
  rw [checkUrl, urlComplaint]
  by_cases hempty : url = ""
  · subst hempty
    exact .inr ⟨by rw [hweb]; decide, rfl⟩
  · have hnonempty : url.isEmpty = false := by
      simpa [String.isEmpty_iff] using hempty
    rw [hnonempty, if_neg Bool.false_ne_true, if_neg hempty]
    by_cases h : IsWebUrl url
    · exact .inl ⟨h, by rw [if_pos (hweb.mp h)]⟩
    · exact .inr ⟨h, by rw [if_neg (fun hok => h (hweb.mpr hok))]⟩

theorem checkTimeout_cases (name : String) (timeoutMs : UInt64) :
    (timeoutMs ≠ 0 ∧ checkTimeout name timeoutMs = .ok ()) ∨
      ¬timeoutMs ≠ 0 ∧
        checkTimeout name timeoutMs = .error (.config (name ++ " must be greater than zero")) := by
  rw [checkTimeout]
  by_cases h : timeoutMs = 0
  · exact .inr ⟨not_not.mpr h, if_pos h⟩
  · exact .inl ⟨h, if_neg h⟩

namespace Check

/-- Makes a check. -/
def run (config : DeployConfig) : Check → Except Failure Unit
  | remoteUrl => checkUrl config.remote.baseUrl
  | integrationUrl => checkUrl config.integrationBaseUrl
  | discoveryTimeout => checkTimeout "discovery_timeout_ms" config.discoveryTimeoutMs
  | pushTimeout => checkTimeout "push_timeout_ms" config.pushTimeoutMs
  | webhookTimeout => checkTimeout "webhook_timeout_ms" config.webhookTimeoutMs

theorem run_cases (config : DeployConfig) (check : Check) :
    (check.Passes config ∧ check.run config = .ok ()) ∨
      ¬check.Passes config ∧ check.run config = .error (.config (check.complaint config)) := by
  cases check with
  | remoteUrl => exact checkUrl_cases _
  | integrationUrl => exact checkUrl_cases _
  | discoveryTimeout => exact checkTimeout_cases "discovery_timeout_ms" _
  | pushTimeout => exact checkTimeout_cases "push_timeout_ms" _
  | webhookTimeout => exact checkTimeout_cases "webhook_timeout_ms" _

/-- Checks that are made in turn are all passed, or end at the first that is not. -/
theorem forM_run_cases (config : DeployConfig) (checks : List Check) :
    ((∀ check ∈ checks, check.Passes config) ∧ forM checks (run config) = .ok ()) ∨
      ∃ before check after, checks = before ++ check :: after ∧
        (∀ earlier ∈ before, earlier.Passes config) ∧ ¬check.Passes config ∧
        forM checks (run config) = .error (.config (check.complaint config)) := by
  induction checks with
  | nil => exact .inl ⟨List.forall_mem_nil _, rfl⟩
  | cons first checks ih =>
    rw [List.forM_cons]
    rcases run_cases config first with ⟨hpasses, hrun⟩ | ⟨hfails, hrun⟩
    · rw [hrun]
      rcases ih with ⟨hall, hok⟩ | ⟨before, check, after, rfl, hbefore, hfails, herror⟩
      · exact .inl ⟨List.forall_mem_cons.mpr ⟨hpasses, hall⟩, hok⟩
      · exact .inr ⟨first :: before, check, after, rfl,
          List.forall_mem_cons.mpr ⟨hpasses, hbefore⟩, hfails, herror⟩
    · rw [hrun]
      exact .inr ⟨[], first, checks, rfl, List.forall_mem_nil _, hfails, rfl⟩

theorem validate_eq_forM (config : DeployConfig) :
    config.validate = forM inOrder (run config) := by
  have hlast (result : Except Failure Unit) : (result >>= fun _ => pure ()) = result := by
    cases result <;> rfl
  change _ = run config remoteUrl >>= fun _ => run config integrationUrl >>= fun _ =>
    run config discoveryTimeout >>= fun _ => run config pushTimeout >>= fun _ =>
      run config webhookTimeout >>= fun _ => pure ()
  rw [hlast]
  rfl

end Check

/-- A configuration whose addresses and time limits make sense. -/
structure Sound (config : DeployConfig) : Prop where
  remoteUrl : IsWebUrl config.remote.baseUrl
  integrationUrl : IsWebUrl config.integrationBaseUrl
  discoveryTimeout : config.discoveryTimeoutMs ≠ 0
  pushTimeout : config.pushTimeoutMs ≠ 0
  webhookTimeout : config.webhookTimeoutMs ≠ 0

theorem sound_iff {config : DeployConfig} :
    config.Sound ↔ ∀ check ∈ Check.inOrder, check.Passes config := by
  simp only [Check.inOrder, List.forall_mem_cons]
  constructor
  · intro h
    exact ⟨h.remoteUrl, h.integrationUrl, h.discoveryTimeout, h.pushTimeout, h.webhookTimeout,
      List.forall_mem_nil _⟩
  · rintro ⟨hremote, hintegration, hdiscovery, hpush, hwebhook, -⟩
    exact ⟨hremote, hintegration, hdiscovery, hpush, hwebhook⟩

/-- What comes of checking a configuration: itself, or the complaint of the first check that it
fails. -/
structure Judges (config : DeployConfig) (result : Except Failure DeployConfig) : Prop where
  accepts : result = .ok config ↔ config.Sound
  rejects : ¬config.Sound → ∃ check : Check, check.FailsFirst config ∧
    result = .error (.config (check.complaint config))

theorem judges_checked (config : DeployConfig) : config.Judges config.checked := by
  have hchecked : config.checked = (forM Check.inOrder (Check.run config)).map fun _ => config := by
    rw [checked, Check.validate_eq_forM]
    cases forM Check.inOrder (Check.run config) <;> rfl
  rcases Check.forM_run_cases config Check.inOrder with
    ⟨hall, hok⟩ | ⟨before, check, after, hsplit, hbefore, hfails, herror⟩
  · rw [hok] at hchecked
    have hsound := sound_iff.mpr hall
    exact ⟨iff_of_true hchecked hsound, fun h => absurd hsound h⟩
  · rw [herror] at hchecked
    have hunsound : ¬config.Sound := by
      intro h
      refine hfails (sound_iff.mp h check ?_)
      rw [hsplit]
      exact List.mem_append_right _ List.mem_cons_self
    rw [hchecked]
    exact ⟨iff_of_false nofun hunsound,
      fun _ => ⟨check, ⟨before, after, hsplit, hbefore, hfails⟩, rfl⟩⟩

/-! ## Agreement -/

/-- A configuration is loaded from its variables as it is loaded from its texts: if it is sound, and
with the complaint of the first check that it fails if it is not.  The key, which may refer to
variables, is the same for both. -/
theorem agreeing_load {config : DeployConfig} {env : Environment}
    (hset : ∀ setting ∈ config.settings, env setting.1 = some setting.2)
    (hkey : config.remote.apiKey = "" ∨ Text.blank config.remote.apiKey = false) :
    config.Judges (ofEnvironment env) ∧ ∀ text ∈ config.texts,
      (ofText text).mapError LoadError.failure = ofEnvironment env ∧
        ∀ one other, ofEnvironment env = .ok one → ofText text = .ok other →
          ∀ common, one.resolvedApiKey common = other.resolvedApiKey common := by
  rw [ofEnvironment_eq_checked hset hkey]
  refine ⟨config.judges_checked, fun text htext => ?_⟩
  rw [ofText_eq_checked htext]
  have hsame : (config.checked.mapError LoadError.rejected).mapError LoadError.failure =
      config.checked := by
    cases config.checked <;> rfl
  refine ⟨hsame, fun one other hone hother common => ?_⟩
  rw [hone] at hother
  rw [Except.ok.inj hother]

/-- A configuration with a wrong address and without time for the push. -/
theorem agreeing_load_of_wrongAddress :
    let config : DeployConfig := ⟨⟨"http://voice", "sk_live"⟩, "ftp://portal", 5, 0, 10⟩
    let env := Environment.ofList config.settings
    (∀ setting ∈ config.settings, env setting.1 = some setting.2) ∧
      (config.remote.apiKey = "" ∨ Text.blank config.remote.apiKey = false) ∧
      config.Judges (ofEnvironment env) ∧
      (ofText (compact config.toJson)).mapError LoadError.failure = ofEnvironment env := by
  intro config env
  have hset := config.settings_ofList
  have hkey : config.remote.apiKey = "" ∨ Text.blank config.remote.apiKey = false :=
    .inr (by decide)
  have hload := agreeing_load hset hkey
  exact ⟨hset, hkey, hload.1, (hload.2 _ List.mem_cons_self).1⟩

end DeployConfig

end CallFlow
