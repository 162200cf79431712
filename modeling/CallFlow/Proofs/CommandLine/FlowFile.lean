import CallFlow.Proofs.CommandLine.DryRun
import CallFlow.Proofs.Flow.Codec
import Mathlib.Logic.Function.Iterate

/-!
# The file of a flow

Commands are carried out one after the other, and each meets the files as the one before left them.
The file of a flow is the only one that a command writes, at its very end: a deploy that fails before
leaves all files alone, and one that succeeds leaves the flow marked as deployed.  Dry runs can be
repeated: each finds the flow that the one before has written, prints the same, and raises the
version by one.

A path stands for one file here, and another spelling of it for another file.  A configuration that
is kept in the file of the flow is overwritten by the first deploy; in another file it stays.
-/

namespace CallFlow.CommandLine

open Json

variable {σ : Type}

/-- The order with another command, about the same files and for the same client. -/
def Order.to (order : Order) (command : Command) : Order :=
  { order with command := command }

/-! ## Files -/

/-- How the write of a file goes. -/
inductive Writing where
  | done
  /-- It breaks off, and leaves something behind. -/
  | broken (left : Except String String)

namespace Writing

/-- Whether the file was written. -/
def isDone : Writing → Bool
  | .done => true
  | .broken _ => false

/-- What a file reads as after a text was written to it. -/
def leaves (text : String) : Writing → Except String String
  | .done => .ok text
  | .broken left => left

end Writing

/-- What commands meet that are carried out one after the other. -/
structure Session (σ : Type) extends Surroundings σ where
  remote : σ

namespace Session

/-- The session after a file was written, if there was one to write.  Only its path, as it is
spelled, reads differently then. -/
def write (session : Session σ) (writing : Writing) : Option FileChange → Session σ
  | some change =>
    { session with
      readFile := Function.update session.readFile change.path (writing.leaves change.text) }
  | none => session

/-- The configuration of an order can be read, or the order makes do with the default one. -/
def Configures (session : Session σ) (order : Order) : Prop :=
  ∃ config, loadConfig session.readFile session.env order.configPath true = .ok config

end Session

namespace Order

/-- What comes of an order: its report when its file was written or could not be written. -/
def report (order : Order) (writing : Writing) (session : Session σ) : Report σ :=
  (order.run session.toSurroundings session.remote).settled writing.isDone

/-- The session after an order. -/
def after (order : Order) (writing : Writing) (session : Session σ) : Session σ :=
  let report := order.run session.toSurroundings session.remote
  { session.write writing report.change with remote := report.remote }

end Order

/-! ## The end of a deploy -/

/-- How a deploy ends before its file is written: it failed, and there is nothing to write, or the
flow of the file is to be written with the mark of the deploy. -/
inductive Report.Ended (readFile : String → Except String String) (path : String)
    (report : Report σ) : Prop
  | failed {complaint : Complaint} (hcomplaint : report.complaint = some complaint)
      (hother : complaint ≠ .flowNotWritten path) (hchange : report.change = none)
  | deployed {flow : Flow} (hread : loadFlow readFile path = .ok flow)
      (hcomplaint : report.complaint = none)
      (hchange : report.change = some ⟨path, pretty flow.deployed.toJson⟩)

theorem failure_ne_flowNotWritten (failure : Failure) (path : String) :
    Complaint.failure failure ≠ .flowNotWritten path := by
  intro hsame
  cases hsame

theorem Report.ended_ofRun {τ : Type} {readFile : String → Except String String} {path : String}
    {flow : Flow} (hread : loadFlow readFile path = .ok flow) (deployer : Deployer)
    (respond : Responder τ) (client : Client) (state : τ) (remote : σ) :
    (Report.ofRun path flow.id
      (deployer.run respond client flow.id false (Store.empty.insert flow) state) remote).Ended
        readFile path := by
  cases hresult : (deployer.run respond client flow.id false (Store.empty.insert flow)
      state).result with
  | error failure =>
    rw [Report.ofRun, hresult]
    exact .failed rfl (failure_ne_flowNotWritten _ _) rfl
  | ok outcome =>
    obtain ⟨job, entries, hload, -, -, hrun⟩ := Deployer.exists_run_eq_of_result hresult
    obtain rfl := flow_eq_of_load hload
    rw [hrun]
    refine .deployed hread rfl ?_
    simp only [Report.ofRun, Store.get?_insert_deployed, Option.map_some]

theorem loadFlow_eq_error {readFile : String → Except String String} {path : String}
    {complaint : Complaint} (h : loadFlow readFile path = .error complaint) :
    complaint ≠ .flowNotWritten path := by
  rw [loadFlow] at h
  cases hfile : readFile path with
  | error reason =>
    rw [hfile] at h
    cases h
    nofun
  | ok text =>
    rw [hfile] at h
    cases hflow : Decoder.ofText Flow.decoder text with
    | error problem =>
      simp only [hflow, Except.mapError] at h
      cases h
      nofun
    | ok flow =>
      simp only [hflow, Except.mapError] at h
      cases h

/-- Whatever is deployed, however it is done, a failure comes before there is anything to write. -/
theorem Order.ended_run (order : Order) (dryRun : Bool) (surroundings : Surroundings σ)
    (remote : σ) :
    ((order.to (.deploy dryRun)).run surroundings remote).Ended surroundings.readFile
      order.flowPath := by
  change (Order.run ⟨.deploy dryRun, order.flowPath, order.configPath, order.clientId⟩
    surroundings remote).Ended _ _
  rw [Order.run]
  cases hread : loadFlow surroundings.readFile order.flowPath with
  | error complaint => exact .failed rfl (loadFlow_eq_error hread) rfl
  | ok flow =>
    dsimp only
    split
    · exact .failed rfl (failure_ne_flowNotWritten _ _) rfl
    · next config _ =>
      cases dryRun with
      | true => exact Report.ended_ofRun hread _ _ _ _ _
      | false =>
        change Report.Ended _ _ (Order.deploy _ flow config surroundings remote)
        rw [Order.deploy]
        split
        · exact .failed rfl (failure_ne_flowNotWritten _ _) rfl
        · exact Report.ended_ofRun hread _ _ _ _ _

/-! ## What an order leaves behind -/

section OneOrder

variable {order : Order} {session : Session σ} {writing : Writing}

/-- A failure in front of the write is told as it is, and leaves the files alone. -/
theorem Order.readFile_after_of_failed (writing : Writing)
    (h : (order.run session.toSurroundings session.remote).change = none) :
    order.report writing session = order.run session.toSurroundings session.remote ∧
      (order.after writing session).readFile = session.readFile := by
  constructor
  · rw [Order.report, Report.settled, h]
  · rw [Order.after, h]
    rfl

/-- A file that is to be written reads as what the write leaves of it, and no other file changes. -/
theorem Order.readFile_after_of_change (writing : Writing) {change : FileChange}
    (h : (order.run session.toSurroundings session.remote).change = some change) :
    (order.after writing session).readFile =
      Function.update session.readFile change.path (writing.leaves change.text) := by
  rw [Order.after, h]
  rfl

theorem loadFlow_update (readFile : String → Except String String) (path : String) (flow : Flow) :
    loadFlow (Function.update readFile path (.ok (pretty flow.toJson))) path = .ok flow := by
  have hread := flow.ofText_pretty_toJson
  rw [loadFlow, Function.update_self]
  simp only [hread, Except.mapError]

/-- A deploy that was to write its file and could not fails by that. -/
theorem Order.complaint_report_of_broken (left : Except String String) {change : FileChange}
    (h : (order.run session.toSurroundings session.remote).change = some change) :
    (order.report (.broken left) session).complaint = some (.flowNotWritten change.path) := by
  rw [Order.report, Report.settled, h]
  rfl

theorem Order.report_of_done (order : Order) (session : Session σ) :
    order.report .done session = order.run session.toSurroundings session.remote := by
  rw [Order.report, Report.settled]
  split
  · rfl
  · rfl

/-- What a deploy does to files, whether or not it is a dry run, and however its write goes. -/
structure Order.Writes (order : Order) (writing : Writing) (session : Session σ) : Prop where
  /-- A failure of anything but the write leaves all files as they were. -/
  failed : (order.report writing session).complaint ≠ none →
    (order.report writing session).complaint ≠ some (.flowNotWritten order.flowPath) →
      (order.after writing session).readFile = session.readFile
  broken : (order.report writing session).complaint = some (.flowNotWritten order.flowPath) →
    writing ≠ .done
  /-- After a success the file reads as the flow that it read as, one version on and active. -/
  succeeded : (order.report writing session).complaint = none →
    ∃ flow, loadFlow session.readFile order.flowPath = .ok flow ∧
      loadFlow (order.after writing session).readFile order.flowPath =
        .ok { flow with version := flow.version + 1, active := true }
  others : ∀ path, path ≠ order.flowPath →
    (order.after writing session).readFile path = session.readFile path

theorem Order.writes_deploy (order : Order) (dryRun : Bool) (writing : Writing)
    (session : Session σ) : (order.to (.deploy dryRun)).Writes writing session := by
  cases order.ended_run dryRun session.toSurroundings session.remote with
  | @failed complaint hcomplaint hother hchange =>
    obtain ⟨hreport, hfiles⟩ := readFile_after_of_failed writing hchange
    refine ⟨fun _ _ => hfiles, ?_, ?_, fun path _ => congrFun hfiles path⟩
    · intro hbroken
      rw [hreport, hcomplaint] at hbroken
      exact absurd (Option.some.inj hbroken) hother
    · intro hnone
      rw [hreport, hcomplaint] at hnone
      cases hnone
  | @deployed flow hread hcomplaint hchange =>
    have hfiles := readFile_after_of_change writing hchange
    have hothers : ∀ path, path ≠ order.flowPath →
        ((order.to (.deploy dryRun)).after writing session).readFile path =
          session.readFile path := by
      intro path hpath
      rw [hfiles]
      exact Function.update_of_ne hpath _ _
    cases writing with
    | done =>
      have hnone : ((order.to (.deploy dryRun)).report .done session).complaint = none := by
        rw [report_of_done, hcomplaint]
      refine ⟨fun hfailed => absurd hnone hfailed, ?_, ?_, hothers⟩
      · intro hbroken
        rw [hnone] at hbroken
        cases hbroken
      · intro _
        refine ⟨flow, hread, ?_⟩
        rw [hfiles]
        exact loadFlow_update _ _ flow.deployed
    | broken left =>
      have hbroken := complaint_report_of_broken left hchange
      refine ⟨fun _ hother => absurd hbroken hother, nofun, ?_, hothers⟩
      intro hnone
      rw [hbroken] at hnone
      cases hnone

/-- A deploy succeeds when it finds nothing to complain of and its file is written. -/
theorem Order.complaint_deploy_eq_none_iff (order : Order) {dryRun : Bool} :
    ((order.to (.deploy dryRun)).report writing session).complaint = none ↔ writing = .done ∧
      ((order.to (.deploy dryRun)).run session.toSurroundings session.remote).complaint = none := by
  cases writing with
  | done => simp [report_of_done]
  | broken left =>
    cases order.ended_run dryRun session.toSurroundings session.remote with
    | failed hcomplaint _ hchange =>
      simp [(readFile_after_of_failed _ hchange).1, hcomplaint]
    | deployed _ _ hchange => simp [complaint_report_of_broken left hchange]

end OneOrder

/-! ## Dry runs -/

section DryRuns

variable {order : Order} {session : Session σ} {flow : Flow} {config : DeployConfig}

theorem Order.run_dry (hread : loadFlow session.readFile order.flowPath = .ok flow)
    (hconfig : loadConfig session.readFile session.env order.configPath true = .ok config) :
    (order.to (.deploy true)).run session.toSurroundings session.remote =
      order.rehearse flow config session.remote := by
  change Order.run ⟨.deploy true, order.flowPath, order.configPath, order.clientId⟩ _ _ = _
  have hdefault : (Command.deploy true != .deploy false) = true := rfl
  simp only [Order.run, hread, hdefault, hconfig]
  rfl

theorem Order.run_compile (hread : loadFlow session.readFile order.flowPath = .ok flow)
    (hconfig : loadConfig session.readFile session.env order.configPath true = .ok config) :
    (order.to .compile).run session.toSurroundings session.remote =
      order.compile flow config session.remote := by
  change Order.run ⟨.compile, order.flowPath, order.configPath, order.clientId⟩ _ _ = _
  have hdefault : (Command.compile != .deploy false) = true := rfl
  simp only [Order.run, hread, hdefault, hconfig]
  rfl

/-- A dry run of a flow that fits marks the flow of the file, and prints its script and its tools. -/
theorem Order.dry_of_fits (hread : loadFlow session.readFile order.flowPath = .ok flow)
    (hconfigures : session.Configures order) (hfits : order.Fits flow) :
    let dry := order.to (.deploy true)
    (dry.report .done session).complaint = none ∧ (dry.report .done session).Prints flow.nodes ∧
      loadFlow (dry.after .done session).readFile order.flowPath = .ok flow.deployed := by
  intro dry
  obtain ⟨config, hconfig⟩ := hconfigures
  have hrun := run_dry hread hconfig
  obtain ⟨agentId, entries, hrehearse⟩ := hfits.exists_rehearse_eq config session.remote
  have hchange : (dry.run session.toSurroundings session.remote).change =
      some ⟨order.flowPath, pretty flow.deployed.toJson⟩ := by
    rw [hrun, hrehearse]
  refine ⟨?_, ?_, ?_⟩
  · rw [report_of_done, hrun]
    exact complaint_rehearse_eq_none_iff.mpr hfits
  · rw [report_of_done, hrun]
    exact hfits.prints_rehearse config session.remote
  · rw [readFile_after_of_change _ hchange]
    exact loadFlow_update _ _ flow.deployed

/-- With a configuration, a dry run succeeds just when its file holds a flow that fits and can be
written; and then it announces what a compilation prints. -/
theorem Order.dry_iff (hconfigures : session.Configures order) (writing : Writing) :
    let dry := order.to (.deploy true)
    ((dry.report writing session).complaint = none ↔
      writing = .done ∧
        ∃ flow, loadFlow session.readFile order.flowPath = .ok flow ∧ order.Fits flow) ∧
    ((dry.report writing session).complaint = none →
      (dry.report writing session).Announces ((order.to .compile).report .done session)) := by
  intro dry
  have hiff : (dry.report writing session).complaint = none ↔ writing = .done ∧
      ∃ flow, loadFlow session.readFile order.flowPath = .ok flow ∧ order.Fits flow := by
    constructor
    · intro hnone
      obtain ⟨flow, hread, -⟩ := (order.writes_deploy true writing session).succeeded hnone
      change loadFlow session.readFile order.flowPath = .ok flow at hread
      obtain ⟨rfl, hran⟩ := order.complaint_deploy_eq_none_iff.mp hnone
      obtain ⟨config, hconfig⟩ := id hconfigures
      rw [run_dry hread hconfig] at hran
      exact ⟨rfl, flow, hread, complaint_rehearse_eq_none_iff.mp hran⟩
    · rintro ⟨rfl, flow, hread, hfits⟩
      exact (dry_of_fits hread hconfigures hfits).1
  refine ⟨hiff, ?_⟩
  intro hnone
  obtain ⟨rfl, flow, hread, hfits⟩ := hiff.mp hnone
  have hprints := (dry_of_fits hread hconfigures hfits).2.1
  obtain ⟨config, hconfig⟩ := hconfigures
  rw [report_of_done (order.to .compile), run_compile hread hconfig]
  exact hprints.announces hfits config session.remote

end DryRuns

/-! ## One dry run after the other -/

/-- The session after a number of orders of one kind, all of which write their files. -/
def Order.rounds (order : Order) (k : Nat) (session : Session σ) : Session σ :=
  (order.after .done)^[k] session

theorem Order.rounds_succ (order : Order) (k : Nat) (session : Session σ) :
    order.rounds (k + 1) session = order.after .done (order.rounds k session) :=
  Function.iterate_succ_apply' _ _ _

/-- A flow that was deployed a number of times. -/
theorem exists_deployed_iterate (flow : Flow) (k : Nat) :
    ∃ version, Flow.deployed^[k] flow =
        { flow with version := version, active := flow.active || decide (0 < k) } ∧
      (flow.version.toNat + k ≤ versionLimit →
        version.toNat = flow.version.toNat + k) := by
  induction k with
  | zero => exact ⟨flow.version, by simp, fun _ => rfl⟩
  | succ k ih =>
    obtain ⟨version, hflow, hversion⟩ := ih
    refine ⟨version + 1, ?_, ?_⟩
    · rw [Function.iterate_succ_apply', hflow]
      simp [Flow.deployed]
    · intro hlimit
      have hbefore := hversion (by omega)
      have hnext : (version + 1).toNat = version.toNat + 1 := toNat_succ_of_lt (by omega)
      omega

namespace Order

theorem Fits.iterate {order : Order} {flow : Flow} (h : order.Fits flow) (k : Nat) :
    order.Fits (Flow.deployed^[k] flow) := by
  induction k with
  | zero => exact h
  | succ k ih =>
    rw [Function.iterate_succ_apply']
    exact ih.deployed

/-- Dry runs of a flow that fits succeed one after the other and print the same, as long as each of
them finds a configuration. -/
theorem rounds_of_fits {order : Order} {session : Session σ} {flow : Flow}
    (hread : loadFlow session.readFile order.flowPath = .ok flow) (hfits : order.Fits flow)
    {k : Nat} (hconfigures : ∀ i < k,
      ((order.to (.deploy true)).rounds i session).Configures order) :
    let dry := order.to (.deploy true)
    (∀ i < k, (dry.report .done (dry.rounds i session)).complaint = none ∧
      (dry.report .done (dry.rounds i session)).Prints flow.nodes) ∧
    loadFlow (dry.rounds k session).readFile order.flowPath = .ok (Flow.deployed^[k] flow) := by
  intro dry
  induction k with
  | zero => exact ⟨nofun, hread⟩
  | succ k ih =>
    obtain ⟨hbefore, hread⟩ := ih fun i hi => hconfigures i (Nat.lt_succ_of_lt hi)
    obtain ⟨hnone, hprints, hafter⟩ :=
      dry_of_fits hread (hconfigures k (Nat.lt_succ_self k)) (hfits.iterate k)
    have hnodes : (Flow.deployed^[k] flow).nodes = flow.nodes := by
      obtain ⟨version, hflow, -⟩ := exists_deployed_iterate flow k
      rw [hflow]
    rw [hnodes] at hprints
    constructor
    · intro i hi
      rcases Nat.lt_succ_iff_lt_or_eq.mp hi with hlt | rfl
      · exact hbefore i hlt
      · exact ⟨hnone, hprints⟩
    · rw [rounds_succ, Function.iterate_succ_apply']
      exact hafter

/-! ## The configuration between two orders -/

/-- A configuration is read from the file that is named, if one is named, and from no other. -/
theorem loadConfig_congr {readFile other : String → Except String String} {env : Environment}
    {configPath : Option String} {allowDefault : Bool}
    (h : ∀ path, configPath = some path → other path = readFile path) :
    loadConfig other env configPath allowDefault = loadConfig readFile env configPath allowDefault := by
  cases configPath with
  | none => rfl
  | some path =>
    change configOfFile other path = configOfFile readFile path
    rw [configOfFile, configOfFile, h path rfl]

theorem env_after (order : Order) (writing : Writing) (session : Session σ) :
    (order.after writing session).env = session.env := by
  rw [after]
  cases (order.run session.toSurroundings session.remote).change <;> rfl

/-- A configuration that is not kept in the file of the flow stays as it is. -/
theorem configures_rounds {order : Order} (hother : order.configPath ≠ some order.flowPath)
    (session : Session σ) (k : Nat) :
    ((order.to (.deploy true)).rounds k session).Configures order ↔ session.Configures order := by
  induction k with
  | zero => exact Iff.rfl
  | succ k ih =>
    rw [rounds_succ, ← ih, Session.Configures, Session.Configures, env_after]
    have hwrites := order.writes_deploy true .done ((order.to (.deploy true)).rounds k session)
    rw [loadConfig_congr]
    intro path hpath
    refine hwrites.others path ?_
    rintro rfl
    exact hother hpath

/-! ## The file of a flow that is deployed -/

section Repeated

variable {order : Order} {session : Session σ} {flow : Flow}
  (hread : loadFlow session.readFile order.flowPath = .ok flow) (hfits : order.Fits flow) {k : Nat}
  (hlimit : flow.version.toNat + k ≤ versionLimit)

include hread hfits hlimit

/-- Dry runs that find a configuration raise the version of a flow that fits by their number. -/
theorem dryRuns_of_configures
    (hconfigures : ∀ i < k, ((order.to (.deploy true)).rounds i session).Configures order) :
    let dry := order.to (.deploy true)
    (∀ i < k, (dry.report .done (dry.rounds i session)).complaint = none ∧
      (dry.report .done (dry.rounds i session)).Prints flow.nodes) ∧
    ∃ version, version.toNat = flow.version.toNat + k ∧
      loadFlow (dry.rounds k session).readFile order.flowPath =
        .ok { flow with version := version, active := flow.active || decide (0 < k) } := by
  intro dry
  obtain ⟨hrounds, hlast⟩ := rounds_of_fits hread hfits hconfigures
  obtain ⟨version, hflow, hversion⟩ := exists_deployed_iterate flow k
  refine ⟨hrounds, version, hversion hlimit, ?_⟩
  rw [hlast, hflow]

/-- A configuration that is not kept in the file of the flow need only be found at the start: any
number of dry runs of a flow that fits succeed, print the same, and raise the version by one each. -/
theorem dryRuns_of_configPath_ne (hother : order.configPath ≠ some order.flowPath)
    (hconfigures : session.Configures order) :
    let dry := order.to (.deploy true)
    (∀ i < k, (dry.report .done (dry.rounds i session)).complaint = none ∧
      (dry.report .done (dry.rounds i session)).Prints flow.nodes) ∧
    ∃ version, version.toNat = flow.version.toNat + k ∧
      loadFlow (dry.rounds k session).readFile order.flowPath =
        .ok { flow with version := version, active := flow.active || decide (0 < k) } :=
  dryRuns_of_configures hread hfits hlimit fun i _ =>
    (configures_rounds hother session i).mpr hconfigures

end Repeated

/-- A deploy that fails leaves all files as they were, unless it fails by the write of its file, and
one that succeeds leaves the flow one version on and active.  A dry run with a configuration succeeds
just when its file holds a flow that fits, prints what a compilation prints, and can be repeated.
Files are told apart by the spelling of their paths; a configuration in the file of the flow itself
is gone after the first run, so each run is asked for its own. -/
theorem flowFile_deploy (order : Order) (session : Session σ) :
    let dry := order.to (.deploy true)
    (∀ (dryRun : Bool) (writing : Writing),
      (order.to (.deploy dryRun)).Writes writing session) ∧
    (session.Configures order → ∀ writing : Writing,
      ((dry.report writing session).complaint = none ↔
        writing = .done ∧
          ∃ flow, loadFlow session.readFile order.flowPath = .ok flow ∧ order.Fits flow) ∧
      ((dry.report writing session).complaint = none →
        (dry.report writing session).Announces ((order.to .compile).report .done session))) ∧
    (order.configPath ≠ some order.flowPath → ∀ k,
      ((dry.rounds k session).Configures order ↔ session.Configures order)) ∧
    ∀ (flow : Flow) (k : Nat), loadFlow session.readFile order.flowPath = .ok flow →
      order.Fits flow → flow.version.toNat + k ≤ versionLimit →
      (∀ i < k, (dry.rounds i session).Configures order) →
      (∀ i < k, (dry.report .done (dry.rounds i session)).complaint = none ∧
        (dry.report .done (dry.rounds i session)).Prints flow.nodes) ∧
      ∃ version, version.toNat = flow.version.toNat + k ∧
        loadFlow (dry.rounds k session).readFile order.flowPath =
          .ok { flow with version := version, active := flow.active || decide (0 < k) } := by
  intro dry
  refine ⟨fun dryRun writing => order.writes_deploy dryRun writing session, dry_iff,
    fun hother => configures_rounds hother session, ?_⟩
  intro flow k hread hfits hlimit hconfigures
  exact dryRuns_of_configures hread hfits hlimit hconfigures

/-- A flow with a webhook, in a file, without a configuration. -/
def webhookSession : Session Unit where
  readFile path :=
    if path = "flow.json" then
      .ok (pretty (Flow.toJson ⟨"f", "c", "", [.ofKind "n" (.webhook (some "https://h") .post)], [],
        6, false, some " a "⟩))
    else .error "no such file"
  env := fun _ => none
  transport := fun _ _ state => (.unanswered, state)
  remote := ()

/-- Three dry runs of that file raise its version by three; an order of another client fails and
leaves it alone. -/
theorem flowFile_deploy_of_webhook :
    let order : Order := ⟨.compile, "flow.json", none, none⟩
    let foreign : Order := ⟨.deploy true, "flow.json", none, some "other"⟩
    let flow : Flow := ⟨"f", "c", "", [.ofKind "n" (.webhook (some "https://h") .post)], [], 9, true,
      some " a "⟩
    loadFlow ((order.to (.deploy true)).rounds 3 webhookSession).readFile "flow.json" = .ok flow ∧
      ((order.to (.deploy true)).report .done webhookSession).Announces
        (order.report .done webhookSession) ∧
      (foreign.report .done webhookSession).complaint ≠ none ∧
      (foreign.after .done webhookSession).readFile = webhookSession.readFile := by
  intro order foreign flow
  have hread : loadFlow webhookSession.readFile "flow.json" =
      .ok { flow with version := 6, active := false } :=
    loadFlow_update (fun _ => .error "no such file") "flow.json" _
  have hconfigures : webhookSession.Configures order := ⟨.default, rfl⟩
  have hfits : order.Fits { flow with version := 6, active := false } :=
    ⟨by decide, ⟨" a ", rfl, by decide⟩, nofun⟩
  obtain ⟨-, hdry, hkeeps, hrounds⟩ := flowFile_deploy order webhookSession
  have hother : order.configPath ≠ some order.flowPath := nofun
  have hthree := hrounds _ 3 hread hfits (by decide) fun i _ => (hkeeps hother i).mpr hconfigures
  obtain ⟨-, version, hversion, hlast⟩ := hthree
  have hnine : version = 9 := UInt64.toNat.inj hversion
  have hnone := (hdry hconfigures .done).1.mpr ⟨rfl, _, hread, hfits⟩
  obtain ⟨hwrites, hforeign, -, -⟩ := flowFile_deploy foreign webhookSession
  have hfails : (foreign.report .done webhookSession).complaint ≠ none := by
    intro hsucceeds
    obtain ⟨-, found, hfound, hfoundFits⟩ := (hforeign hconfigures .done).1.mp hsucceeds
    obtain rfl := Except.ok.inj (hread.symm.trans hfound)
    have howner := hfoundFits.owned "other" rfl
    exact absurd howner (by decide)
  refine ⟨?_, (hdry hconfigures .done).2 hnone, hfails, ?_⟩
  · rw [hlast, hnine]
    rfl
  · refine (hwrites true .done).failed hfails ?_
    intro hbroken
    exact (hwrites true .done).broken hbroken rfl

end Order

end CallFlow.CommandLine
