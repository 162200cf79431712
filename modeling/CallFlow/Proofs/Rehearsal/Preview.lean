import CallFlow.Proofs.Agent.Directory
import CallFlow.Proofs.Deploy.Run
import CallFlow.Proofs.Script.Agreement
import CallFlow.Proofs.Tool.Merge
import CallFlow.Rehearsal.World

/-!
# A preview foretells a deploy

A preview changes nothing and makes no call, and what it cannot compile a deploy rejects in the same
way.  When a deploy succeeds, the script and the tools that a preview shows are those that the
directory holds after it; in front of these tools stand the discovered ones that they do not
replace.  The outcome tells just that, and nothing else in the directory has changed.
-/

namespace CallFlow

namespace Deployer

variable {deployer : Deployer} {store : Store} {client : Client} {flowId : String}

theorem preview_eq_of_load {job : Job} (h : Job.load store client flowId = .ok job) :
    deployer.preview store client flowId = .ok (deployer.build job.flow.nodes client) := by
  obtain ⟨hflow, howner, hvalid, -, -⟩ := Job.load_eq_ok h
  have hfound := Store.load_eq_ok_iff.mpr ⟨hflow, howner⟩
  rw [preview, hfound]
  change (job.flow.validate >>= fun _ => _) = _
  rw [hvalid]
  rfl

/-- A flow that cannot be previewed is rejected for the same reason. -/
theorem load_eq_error_of_preview {failure : Failure}
    (h : deployer.preview store client flowId = .error failure) :
    Job.load store client flowId = .error failure := by
  rw [preview] at h
  rw [Job.load]
  cases hload : store.load client.id flowId with
  | error missing =>
    rw [hload] at h
    cases h
    rfl
  | ok flow =>
    rw [hload] at h
    change (flow.validate >>= fun _ => _) = _ at h
    change (flow.validate >>= fun _ => _) = _
    cases hvalid : flow.validate with
    | error invalid =>
      rw [hvalid] at h
      cases h
      rfl
    | ok value =>
      rw [hvalid] at h
      cases h

/-- What is merged into discovered tools stands behind those that are kept of them, as it is: the
tools of nodes have distinct names. -/
theorem exists_kept_patch (deployer : Deployer) (job : Job) (discovery : Discovery) :
    ∃ kept, Tool.Kept discovery.existing
        ((deployer.build job.flow.nodes job.client).tools.map Tool.name) kept ∧
      deployer.patch job discovery =
        ⟨(deployer.build job.flow.nodes job.client).script,
          kept ++ (deployer.build job.flow.nodes job.client).tools⟩ := by
  obtain ⟨kept, hkept, hmerge⟩ := Tool.exists_kept_merge_of_nodup discovery.existing
    (deployer.resolver.nodup_names_toolsOf job.client job.flow.nodes)
  refine ⟨kept, hkept, ?_⟩
  rw [patch]
  exact congrArg (Patch.mk _) hmerge

end Deployer

/-- A preview foretells a deploy that succeeds: its script and its tools, behind the tools that are
kept of the discovered ones, are what the outcome tells and what the write leaves behind. -/
structure Preview.Foretells (preview : Preview) (discovery : Discovery) (outcome : Outcome)
    (before after : Directory) : Prop where
  script : outcome.script = preview.script
  binding : outcome.binding = discovery.binding
  degraded : outcome.degraded = discovery.degraded
  written : ∃ kept, Tool.Kept discovery.existing (preview.tools.map Tool.name) kept ∧
    outcome.toolNames = (kept ++ preview.tools).map Tool.name ∧
    before.Rewritten after outcome.binding ⟨preview.script, kept ++ preview.tools⟩

/-- The write of a deploy by itself meets the directory that its discovery met. -/
theorem Deployer.written_eq_respond (deployer : Deployer) (job : Job) (directory : Directory) :
    deployer.written Directory.responder job directory =
      directory.respond
        (.write (deployer.probed Directory.responder job directory).discovery.binding
          (deployer.change Directory.responder job directory))
        (some deployer.pushTimeoutMs.toNat) := by
  have hremote : (deployer.probed Directory.responder job directory).remote = directory :=
    directory.discover_remote _ _
  rw [written, hremote]
  rfl

/-- What an acknowledged write of a deploy by itself leaves behind. -/
theorem Deployer.rewritten_of_answered {deployer : Deployer} {job : Job} {directory : Directory}
    (hreply : (deployer.written Directory.responder job directory).1 = .answered ()) :
    directory.Rewritten (deployer.written Directory.responder job directory).2
      (deployer.probed Directory.responder job directory).discovery.binding
      (deployer.change Directory.responder job directory) := by
  rw [written_eq_respond] at hreply ⊢
  exact Directory.rewritten_of_respond hreply

/-- Every deploy by itself whose write is acknowledged is foretold by the preview of its flow. -/
theorem Deployer.foretells_told {deployer : Deployer} {job : Job} {directory : Directory}
    (hreply : (deployer.written Directory.responder job directory).1 = .answered ()) :
    (deployer.build job.flow.nodes job.client).Foretells
      (deployer.probed Directory.responder job directory).discovery
      (deployer.told Directory.responder job directory) directory
      (deployer.written Directory.responder job directory).2 := by
  obtain ⟨kept, hkept, hpatch⟩ := deployer.exists_kept_patch job
    (deployer.probed Directory.responder job directory).discovery
  have hrewritten := rewritten_of_answered hreply
  rw [change, hpatch] at hrewritten
  exact ⟨congrArg Patch.script hpatch, rfl, rfl, kept, hkept, congrArg Patch.toolNames hpatch,
    hrewritten⟩

namespace Rehearsal.World

/-- A preview changes nothing; what it rejects a deploy rejects for the same reason; and it
foretells every deploy that succeeds, where what is discovered is true of the directory. -/
theorem preview_foretells_deploy (world : World) (client : Client) (flowId : String)
    (signal : Option String) :
    (world.perform (.preview client flowId)).2 = world ∧
      (∀ failure, (world.perform (.preview client flowId)).1 = .preview (.error failure) →
        (world.perform (.deploy client flowId signal)).1 = .outcome (.error failure)) ∧
      ∀ outcome, (world.perform (.deploy client flowId signal)).1 = .outcome (.ok outcome) →
        ∃ preview flow agentId discovery,
          (world.perform (.preview client flowId)).1 = .preview (.ok preview) ∧
          world.store.get? flowId = some flow ∧ flow.linkedAgent = some agentId ∧
          (world.perform (.discover agentId world.deployer.discoveryTimeoutMs.toNat)).1 =
            .discovery discovery ∧
          world.directory.Discovered discovery ∧
          preview.Foretells discovery outcome world.directory
            (world.perform (.deploy client flowId signal)).2.directory := by
  refine ⟨rfl, ?_, ?_⟩
  · intro failure hpreview
    have hload := Deployer.load_eq_error_of_preview (Answer.preview.inj hpreview)
    exact congrArg Answer.outcome (Deployer.result_run_of_load_eq_error hload)
  · intro outcome houtcome
    obtain ⟨job, hload, hreply, rfl, hremote⟩ :=
      Deployer.exists_job_of_result_run (Answer.outcome.inj houtcome)
    have hforetells := Deployer.foretells_told hreply
    rw [← hremote] at hforetells
    obtain ⟨hflow, -, -, hlinked, rfl⟩ := Job.load_eq_ok hload
    exact ⟨_, job.flow, job.agentId, _,
      congrArg Answer.preview (Deployer.preview_eq_of_load hload), hflow, hlinked, rfl,
      world.directory.discovered_discover _ _, hforetells⟩

/-- A flow with a webhook, linked to an agent that carries a tool of its own. -/
def webhookWorld : World :=
  .new (Deployer.new "https://portal.example.com/api")
    [⟨"f", "c", "", [.ofKind "n" (.webhook (some "https://h") .post)], [], 0, false, some " a "⟩]
    [.inline "a" [.new "custom" "x"]] []

/-- In that world a deploy succeeds as foretold, next to the tool that was there; and a flow that is
missing can neither be previewed nor deployed. -/
theorem preview_foretells_deploy_of_webhook :
    (webhookWorld.perform (.deploy ⟨"c", []⟩ "g" none)).1 =
        .outcome (.error (.flowNotFound "g")) ∧
      ∃ (preview : Preview) (outcome : Outcome) (discovery : Discovery),
        (webhookWorld.perform (.deploy ⟨"c", []⟩ "f" none)).1 = .outcome (.ok outcome) ∧
        discovery.existing = [.new "custom" "x"] ∧
        preview.Foretells discovery outcome webhookWorld.directory
          (webhookWorld.perform (.deploy ⟨"c", []⟩ "f" none)).2.directory := by
  refine ⟨(preview_foretells_deploy webhookWorld ⟨"c", []⟩ "g" none).2.1 _ rfl, ?_⟩
  obtain ⟨outcome, houtcome⟩ : ∃ outcome,
      (webhookWorld.perform (.deploy ⟨"c", []⟩ "f" none)).1 = .outcome (.ok outcome) := ⟨_, rfl⟩
  obtain ⟨preview, flow, agentId, discovery, -, hflow, hlinked, hdiscovery, -, hforetells⟩ :=
    (preview_foretells_deploy webhookWorld ⟨"c", []⟩ "f" none).2.2 outcome houtcome
  refine ⟨preview, outcome, discovery, houtcome, ?_, hforetells⟩
  obtain rfl := Option.some.inj hflow
  obtain rfl := Option.some.inj hlinked
  obtain rfl := Answer.discovery.inj hdiscovery
  rfl

end Rehearsal.World

end CallFlow
