import CallFlow.Proofs.Agent.Directory
import CallFlow.Proofs.Deploy.Run

/-!
# Deploys and slow directories

A directory in memory may take its time for every read and every write.  A call that takes no longer
than its limit ends as it ends at once; so a deploy whose calls are all in time cannot be told from
one without delays, although its calls may take longer together than one limit.  Reads that take
longer than the limit leave a deploy without the tools that are there, and a write that takes longer
leaves everything as it was.  No call takes longer than the longest wait of a timer.
-/

namespace CallFlow

/-! ## Deploys over responders that reply alike -/

section

variable {σ τ : Type} {respond : Responder σ} {other : Responder τ}

/-- In related states two responders reply alike to a call, and stay related. -/
def Responder.RepliesAlike (related : σ → τ → Prop) (respond : Responder σ) (other : Responder τ)
    (call : Call) (limitMs : Nat) : Prop :=
  ∀ state same, related state same →
    (other call limitMs same).1 = (respond call limitMs state).1 ∧
      related (respond call limitMs state).2 (other call limitMs same).2

/-- Responders that reply alike to reads are alike for discoveries. -/
theorem Responder.discover_alike {related : σ → τ → Prop} {limitMs : Nat}
    (h : ∀ call, call.isWrite = false → respond.RepliesAlike related other call limitMs)
    (agentId : String) {state : σ} {same : τ} (hrelated : related state same) :
    ∃ discovery calls remote later, related remote later ∧
      respond.discover agentId limitMs state = ⟨discovery, remote, calls⟩ ∧
      other.discover agentId limitMs same = ⟨discovery, later, calls⟩ := by
  obtain ⟨hreply, hafter⟩ := h (.fetchAgent agentId) rfl state same hrelated
  cases hprobe : Discovery.afterAgent agentId
      (respond (.fetchAgent agentId) limitMs state).1 with
  | settled discovery =>
    refine ⟨_, _, _, _, hafter, discover_of_settled hprobe, ?_⟩
    exact discover_of_settled (hreply ▸ hprobe)
  | refersTo llmId =>
    obtain ⟨hsecond, hlater⟩ := h (.fetchLlm llmId) rfl _ _ hafter
    refine ⟨_, _, _, _, hlater, discover_of_refersTo hprobe, ?_⟩
    rw [discover_of_refersTo (hreply ▸ hprobe), hsecond]

namespace Deployer

variable {deployer : Deployer} {client : Client} {flowId : String} {store : Store} {job : Job}

/-- Over responders that reply alike to its calls a deploy takes the same course. -/
theorem run_alike {related : σ → τ → Prop}
    (h : ∀ call, respond.RepliesAlike related other call (deployer.limitMs call))
    (hload : Job.load store client flowId = .ok job) {state : σ} {same : τ}
    (hrelated : related state same) :
    ∃ later, related (deployer.run respond client flowId false store state).remote later ∧
      deployer.run other client flowId false store same =
        ⟨(deployer.run respond client flowId false store state).result,
          (deployer.run respond client flowId false store state).store, later,
          (deployer.run respond client flowId false store state).calls,
          (deployer.run respond client flowId false store state).entries⟩ := by
  have hreads : ∀ call, call.isWrite = false →
      respond.RepliesAlike related other call deployer.discoveryTimeoutMs.toNat := by
    intro call hread
    cases call with
    | write target patch => cases hread
    | fetchAgent agentId => exact h (.fetchAgent agentId)
    | fetchLlm llmId => exact h (.fetchLlm llmId)
  obtain ⟨discovery, calls, remote, later, hprobed, hdiscover, hsame⟩ :=
    Responder.discover_alike hreads job.agentId hrelated
  obtain ⟨hreply, hafter⟩ :=
    h (.write discovery.binding (deployer.patch job discovery)) remote later hprobed
  rw [run_eq_proceed hload, run_eq_proceed hload, hdiscover, hsame]
  refine ⟨_, hafter, ?_⟩
  have hwritten : (other (.write discovery.binding (deployer.patch job discovery))
      deployer.pushTimeoutMs.toNat later).1 =
        (respond (.write discovery.binding (deployer.patch job discovery))
          deployer.pushTimeoutMs.toNat remote).1 := hreply
  simp only [proceed, hwritten]
  rfl

end Deployer

end

/-! ## Slow calls -/

/-- The time that a directory takes for a call when it takes one time for every read and one for
every write. -/
def Call.among (readMs pushMs : Nat) : Call → Nat
  | .write _ _ => pushMs
  | _ => readMs

namespace Directory

/-- The directory that takes one time for every read and one for every write. -/
def delayed (directory : Directory) (readMs pushMs : Nat) : Directory :=
  { directory with readDelayMs := readMs, pushDelayMs := pushMs }

theorem delayMs_delayed (directory : Directory) (readMs pushMs : Nat) (call : Call) :
    (directory.delayed readMs pushMs).delayMs call =
      Timer.waitMs (call.among readMs pushMs) := by
  cases call <;> rfl

/-- How a call ends that is not refused is told by its delay and its limit. -/
theorem ending_begin (directory : Directory) {call : Call}
    (h : directory.refusal? call.operation = none) (limitMs : Nat) :
    (directory.begin call (some limitMs)).ending =
      if limitMs < directory.delayMs call then .dropped else .completes := by
  rw [begin, h]
  dsimp only
  split <;> rfl

theorem ending_begin_of_refusal (directory : Directory) {call : Call} {failure : Failure}
    (h : directory.refusal? call.operation = some failure) (limitMs : Option Nat) :
    (directory.begin call limitMs).ending = .refused failure := by
  rw [begin, h]

/-- A write does not look at delays. -/
theorem write_delayed (directory : Directory) (readMs pushMs : Nat) (target : Binding)
    (patch : Patch) :
    (directory.delayed readMs pushMs).write target patch =
      (directory.write target patch).map (delayed · readMs pushMs) := by
  have hchange : (directory.delayed readMs pushMs).change? patch target =
      (directory.change? patch target).map (delayed · readMs pushMs) := by
    cases target with
    | llmBound llmId =>
      rw [change?, change?, Option.map_map]
      rfl
    | inline agentId =>
      rw [change?, change?, Option.map_map]
      rfl
  rw [write, write, hchange]
  cases hfails : directory.failPushes with
  | true => simp [delayed, hfails, Except.map]
  | false =>
    cases directory.change? patch target <;> simp [delayed, hfails, Except.map]

/-- How a call ends for the one who made it, and what it leaves behind, does not depend on delays
once it is told whether it completes. -/
theorem settle_delayed (directory : Directory) (readMs pushMs : Nat) (call : Call)
    (ending : Ending) :
    (directory.delayed readMs pushMs).settle call ending =
      ((directory.settle call ending).1,
        (directory.settle call ending).2.delayed readMs pushMs) := by
  cases ending with
  | dropped => rfl
  | refused failure => rfl
  | completes =>
    cases call with
    | fetchAgent agentId => rfl
    | fetchLlm llmId => rfl
    | write target patch =>
      rw [settle, settle, complete, complete, write_delayed]
      cases directory.write target patch <;> rfl

/-- Directories that are alike but for the delays, where one has none. -/
def Hastened (readMs pushMs : Nat) (directory slow : Directory) : Prop :=
  directory = directory.delayed 0 0 ∧ slow = directory.delayed readMs pushMs

/-- A call in time ends as it ends without delays. -/
theorem repliesAlike_of_inTime {readMs pushMs limitMs : Nat} {call : Call}
    (h : Timer.waitMs (call.among readMs pushMs) ≤ limitMs) :
    responder.RepliesAlike (Hastened readMs pushMs) responder call limitMs := by
  rintro directory slow ⟨hquick, rfl⟩
  have hending : ((directory.delayed readMs pushMs).begin call (some limitMs)).ending =
      (directory.begin call (some limitMs)).ending := by
    cases hrefusal : directory.refusal? call.operation with
    | some failure =>
      rw [directory.ending_begin_of_refusal hrefusal]
      exact (directory.delayed readMs pushMs).ending_begin_of_refusal hrefusal _
    | none =>
      have hnone : ¬ limitMs < directory.delayMs call := by
        rw [hquick, delayMs_delayed]
        cases call <;> simp [Call.among]
      rw [directory.ending_begin hrefusal, if_neg hnone,
        (directory.delayed readMs pushMs).ending_begin hrefusal, delayMs_delayed,
        if_neg (Nat.not_lt.mpr h)]
  have hsettle := directory.settle_delayed readMs pushMs call
    (directory.begin call (some limitMs)).ending
  have hstill := directory.settle_delayed 0 0 call
    (directory.begin call (some limitMs)).ending
  rw [← hquick] at hstill
  refine ⟨?_, congrArg Prod.snd hstill, ?_⟩
  · rw [responder, respond, hending, hsettle]
    rfl
  · rw [responder, respond, hending, hsettle]
    rfl

/-- A call that takes longer than its limit is given up and leaves the directory as it is. -/
theorem respond_of_late {directory : Directory} {readMs pushMs limitMs : Nat} {call : Call}
    (hrefusal : directory.refusal? call.operation = none)
    (h : limitMs < Timer.waitMs (call.among readMs pushMs)) :
    responder call limitMs (directory.delayed readMs pushMs) =
      (.timedOut, directory.delayed readMs pushMs) := by
  have hending := (directory.delayed readMs pushMs).ending_begin hrefusal limitMs
  rw [delayMs_delayed, if_pos h] at hending
  rw [responder, respond, hending]
  rfl

end Directory

/-! ## Slow deploys -/

namespace Deployer

/-- What delays do to a deploy that passes its checks, when a call with a delay takes as long as
`lasting` tells. -/
structure DelaysTell (lasting : Nat → Nat) (deployer : Deployer) (client : Client)
    (flowId : String) (store : Store) (job : Job) (directory : Directory) (readMs pushMs : Nat) :
    Prop where
  /-- Delays in time cannot be told from none. -/
  inTime : lasting readMs ≤ deployer.discoveryTimeoutMs.toNat →
    lasting pushMs ≤ deployer.pushTimeoutMs.toNat →
    let run := deployer.run Directory.responder client flowId false store (directory.delayed 0 0)
    deployer.run Directory.responder client flowId false store
        (directory.delayed readMs pushMs) =
      { run with remote := run.remote.delayed readMs pushMs }
  /-- A deploy whose reads are late proceeds as if the agent had no tools, and reads nothing else. -/
  lateReads : directory.refusal? .fetchAgent = none →
    deployer.discoveryTimeoutMs.toNat < lasting readMs →
    let run := deployer.run Directory.responder client flowId false store
      (directory.delayed readMs pushMs)
    run = deployer.proceed Directory.responder job
        ⟨⟨.inline job.agentId, [], some .agentProbeTimedOut⟩, directory.delayed readMs pushMs,
          [.fetchAgent job.agentId]⟩ store ∧
      ∀ llmId, .fetchLlm llmId ∉ run.calls
  /-- A write that is late fails, whatever would have become of it, and changes nothing. -/
  lateWrite : directory.refusal? .updateLlm = none → directory.refusal? .updateAgent = none →
    deployer.pushTimeoutMs.toNat < lasting pushMs →
    let run := deployer.run Directory.responder client flowId false store
      (directory.delayed readMs pushMs)
    run.result = .error (.remotePushFailed
        ("push timed out after " ++ toString deployer.pushTimeoutMs.toNat ++ "ms")) ∧
      run.store = store ∧ run.remote = directory.delayed readMs pushMs

variable {deployer : Deployer} {client : Client} {flowId : String} {store : Store} {job : Job}

theorem run_inTime (hload : Job.load store client flowId = .ok job) (directory : Directory)
    {readMs pushMs : Nat}
    (hread : Timer.waitMs readMs ≤ deployer.discoveryTimeoutMs.toNat)
    (hpush : Timer.waitMs pushMs ≤ deployer.pushTimeoutMs.toNat) :
    let run := deployer.run Directory.responder client flowId false store (directory.delayed 0 0)
    deployer.run Directory.responder client flowId false store
        (directory.delayed readMs pushMs) =
      { run with remote := run.remote.delayed readMs pushMs } := by
  have hcalls : ∀ call, Directory.responder.RepliesAlike (Directory.Hastened readMs pushMs)
      Directory.responder call (deployer.limitMs call) := by
    intro call
    apply Directory.repliesAlike_of_inTime
    cases call with
    | write target patch => exact hpush
    | fetchAgent agentId => exact hread
    | fetchLlm llmId => exact hread
  have hrelated : Directory.Hastened readMs pushMs (directory.delayed 0 0)
      (directory.delayed readMs pushMs) := ⟨rfl, rfl⟩
  obtain ⟨later, ⟨-, rfl⟩, hrun⟩ := run_alike hcalls hload hrelated
  exact hrun

theorem run_of_lateReads (hload : Job.load store client flowId = .ok job) {directory : Directory}
    (hrefusal : directory.refusal? .fetchAgent = none) {readMs : Nat}
    (hlate : deployer.discoveryTimeoutMs.toNat < Timer.waitMs readMs)
    (pushMs : Nat) :
    deployer.run Directory.responder client flowId false store
        (directory.delayed readMs pushMs) =
      deployer.proceed Directory.responder job
        ⟨⟨.inline job.agentId, [], some .agentProbeTimedOut⟩, directory.delayed readMs pushMs,
          [.fetchAgent job.agentId]⟩ store := by
  have hread : Directory.responder (.fetchAgent job.agentId) deployer.discoveryTimeoutMs.toNat
      (directory.delayed readMs pushMs) = (.timedOut, directory.delayed readMs pushMs) :=
    Directory.respond_of_late hrefusal hlate
  have hprobe : Discovery.afterAgent job.agentId
      (Directory.responder (.fetchAgent job.agentId) deployer.discoveryTimeoutMs.toNat
        (directory.delayed readMs pushMs)).1 =
      .settled (.degrade (.inline job.agentId) .agentProbeTimedOut) := by
    rw [hread]
    rfl
  rw [run_eq_proceed hload, Responder.discover_of_settled hprobe, hread]
  rfl

/-- A deploy whose write is given up fails, and leaves store and directory as they are. -/
theorem run_of_lateWrite (hload : Job.load store client flowId = .ok job) {directory : Directory}
    (hllm : directory.refusal? .updateLlm = none)
    (hagent : directory.refusal? .updateAgent = none) (readMs : Nat) {pushMs : Nat}
    (hlate : deployer.pushTimeoutMs.toNat < Timer.waitMs pushMs) :
    let run := deployer.run Directory.responder client flowId false store
      (directory.delayed readMs pushMs)
    run.result = .error (.remotePushFailed
        ("push timed out after " ++ toString deployer.pushTimeoutMs.toNat ++ "ms")) ∧
      run.store = store ∧ run.remote = directory.delayed readMs pushMs := by
  have hwrite : ∀ target patch,
      Directory.responder (.write target patch) deployer.pushTimeoutMs.toNat
        (directory.delayed readMs pushMs) = (.timedOut, directory.delayed readMs pushMs) := by
    intro target patch
    apply Directory.respond_of_late
    · cases target with
      | llmBound llmId => exact hllm
      | inline agentId => exact hagent
    · exact hlate
  have hremote := (directory.delayed readMs pushMs).discover_remote job.agentId
    deployer.discoveryTimeoutMs.toNat
  rw [run_eq_proceed hload]
  simp [proceed, hremote, hwrite, conclude, pushFailure?]

/-- Delays within the time limits are invisible, and delays beyond them are harmless, for every
deploy by itself that passes its checks.  A call takes as long as a timer waits for its delay. -/
theorem delaysTell_of_load (hload : Job.load store client flowId = .ok job)
    (directory : Directory) (readMs pushMs : Nat) :
    deployer.DelaysTell Timer.waitMs client flowId store job directory readMs pushMs where
  inTime := fun hread hpush => run_inTime hload directory hread hpush
  lateReads := by
    intro hrefusal hlate run
    have hrun : run = _ := run_of_lateReads hload hrefusal hlate pushMs
    refine ⟨hrun, ?_⟩
    intro llmId hmem
    rw [hrun] at hmem
    simp [proceed] at hmem
  lateWrite := fun hllm hagent hlate => run_of_lateWrite hload hllm hagent readMs hlate

/-- A flow without nodes that is linked to an agent. -/
def linkedFlow : Flow := ⟨"f", "c", "", [], [], 0, false, some "a"⟩

/-- An agent that refers to a language model with one tool. -/
def referringDirectory : Directory :=
  (Directory.empty.insertAgent (.llmBound "a" "l")).insertLlm ⟨"l", [.new "custom" "x"], none, []⟩

/-- With limits of five milliseconds a deploy discovers the language model of its agent if calls
take five, reads the agent alone if reads take six, and fails if the write takes six. -/
theorem delaysTell_of_load_of_referring :
    Job.load (Store.empty.insert linkedFlow) ⟨"c", []⟩ "f" =
        .ok ⟨⟨"c", []⟩, linkedFlow, "a"⟩ ∧
      (∃ outcome,
        (((new "https://b").withTimeouts 5 5).run Directory.responder ⟨"c", []⟩ "f" false
          (Store.empty.insert linkedFlow) (referringDirectory.delayed 5 5)).result =
            .ok outcome ∧
        outcome.binding = .llmBound "l" ∧ outcome.degraded = none) ∧
      (((new "https://b").withTimeouts 5 5).run Directory.responder ⟨"c", []⟩ "f" false
        (Store.empty.insert linkedFlow) (referringDirectory.delayed 6 5)).calls.map
          Call.operation = [.fetchAgent, .updateAgent] ∧
      (((new "https://b").withTimeouts 5 5).run Directory.responder ⟨"c", []⟩ "f" false
        (Store.empty.insert linkedFlow) (referringDirectory.delayed 5 6)).result =
          .error (.remotePushFailed "push timed out after 5ms") := by
  refine ⟨rfl, ?_, ?_, ?_⟩
  · rw [(delaysTell_of_load rfl referringDirectory 5 5).inTime (by decide) (by decide)]
    exact ⟨_, rfl, rfl, rfl⟩
  · rw [((delaysTell_of_load rfl referringDirectory 6 5).lateReads rfl (by decide)).1]
    rfl
  · exact ((delaysTell_of_load rfl referringDirectory 5 6).lateWrite rfl rfl (by decide)).1

/-- A delay is not always as long as it is set: beyond the longest wait a read is still in time for
a deployer that waits as long. -/
theorem not_forall_delaysTell_id :
    ¬ ∀ (deployer : Deployer) (client : Client) (flowId : String) (store : Store) (job : Job)
      (directory : Directory) (readMs pushMs : Nat), Job.load store client flowId = .ok job →
        deployer.DelaysTell id client flowId store job directory readMs pushMs := by
  intro hall
  have htells := hall ((new "https://b").withTimeouts 946080000000 946080000000) ⟨"c", []⟩ "f"
    (Store.empty.insert linkedFlow) ⟨⟨"c", []⟩, linkedFlow, "a"⟩ referringDirectory 946080000001
    946080000001 rfl
  have hunread := (htells.lateReads rfl (by decide)).2 "l"
  obtain ⟨patch, hcalls⟩ : ∃ patch,
      (((new "https://b").withTimeouts 946080000000 946080000000).run Directory.responder
        ⟨"c", []⟩ "f" false (Store.empty.insert linkedFlow)
        (referringDirectory.delayed 946080000001 946080000001)).calls =
      [.fetchAgent "a", .fetchLlm "l", .write (.llmBound "l") patch] := ⟨_, rfl⟩
  apply hunread
  rw [hcalls]
  simp

end Deployer

end CallFlow
