import CallFlow.Proofs.Rehearsal.Preview

/-!
# A deploy made once more

The second of two equal deploys reads back what the first one wrote, so its discovery differs from
the first: an agent without an engine carries one by then, and the tools that were found are the
merged ones.  Still it writes the same change to the same record, since merging the tools of a flow
once more changes nothing.  A discovery that degraded because of a fault degrades again, and finds
no tools in both deploys.
-/

namespace CallFlow

namespace Directory

/-- A discovery that is made again after a write to what it discovered discovers the same binding,
and finds there what was written unless it fails as it did before. -/
theorem SameFaults.rediscover {directory other : Directory} (h : directory.SameFaults other)
    {agentId : String} {limitMs : Nat} {patch : Patch}
    (hrewritten : directory.Rewritten other
      (responder.discover agentId limitMs directory).discovery.binding patch) :
    let found := (responder.discover agentId limitMs directory).discovery
    let again := (responder.discover agentId limitMs other).discovery
    again.binding = found.binding ∧
      (again.existing = found.existing ∨ again.existing = patch.tools) := by
  simp only [discovery_discover] at hrewritten ⊢
  cases hprobe : Discovery.afterAgent agentId
    (directory.respond (.fetchAgent agentId) (some limitMs)).1 with
  | settled discovery =>
    rw [hprobe] at hrewritten
    have hbinding := (Discovery.of_afterAgent_settled hprobe).1
    obtain ⟨before, hbefore, hafter⟩ := hrewritten.agent agentId hbinding
    rcases h.respond_cases (.fetchAgent agentId) hbefore hafter (some limitMs) with
      ⟨-, hanswered⟩ | ⟨hsame, -⟩
    · rw [hanswered]
      exact ⟨hbinding.symm, .inr rfl⟩
    · rw [hsame, hprobe]
      exact ⟨rfl, .inl rfl⟩
  | refersTo llmId =>
    rw [hprobe] at hrewritten
    have hbinding := (Discovery.afterLlm_eq llmId
      (directory.respond (.fetchLlm llmId) (some limitMs)).1).1
    -- The agent refers to the model as before, since the write was not to the agent.
    obtain ⟨record, hreply, hengine, hblank⟩ := Discovery.afterAgent_eq_refersTo_iff.mp hprobe
    have hagent := agent?_of_answered hreply
    have hkept : other.agent? agentId = some record := by
      rw [hrewritten.otherAgents agentId, hagent]
      simp [hbinding]
    have hagain : Discovery.afterAgent agentId
        (other.respond (.fetchAgent agentId) (some limitMs)).1 = .refersTo llmId := by
      rcases h.respond_cases (.fetchAgent agentId) hagent hkept (some limitMs) with
        ⟨-, hanswered⟩ | ⟨-, hnever⟩
      · rw [hanswered]
        exact Discovery.afterAgent_eq_refersTo_iff.mpr ⟨record, rfl, hengine, hblank⟩
      · exact absurd hreply (hnever record)
    rw [hagain]
    dsimp only
    obtain ⟨before, hbefore, hafter⟩ := hrewritten.llm llmId hbinding
    rcases h.respond_cases (.fetchLlm llmId) hbefore hafter (some limitMs) with
      ⟨-, hanswered⟩ | ⟨hsame, -⟩
    · rw [hanswered]
      exact ⟨hbinding.symm, .inr rfl⟩
    · rw [hsame]
      exact ⟨rfl, .inl rfl⟩

end Directory

/-- A flow that was loaded is loaded again after it was marked. -/
theorem Job.load_insert_deployed {store : Store} {client : Client} {flowId : String} {job : Job}
    (h : Job.load store client flowId = .ok job) :
    Job.load (store.insert job.flow.deployed) client flowId =
      .ok ⟨client, job.flow.deployed, job.agentId⟩ := by
  obtain ⟨hflow, howner, hvalid, hlinked, -⟩ := Job.load_eq_ok h
  have hid : flowId = job.flow.deployed.id := (store.id_of_get? hflow).symm
  have hmarked : (store.insert job.flow.deployed).get? flowId = some job.flow.deployed := by
    rw [Store.get?_insert, if_pos hid]
  exact Job.load_of_linkedAgent hmarked howner hvalid hlinked

namespace Deployer

variable {deployer : Deployer} {job : Job} {directory : Directory}

/-- A write leaves the faults alone. -/
theorem sameFaults_written (deployer : Deployer) (job : Job) (directory : Directory) :
    directory.SameFaults (deployer.written Directory.responder job directory).2 := by
  rw [written_eq_respond]
  exact directory.sameFaults_settle_write _ _ _

/-- After an acknowledged write the next deploy of the flow discovers the same binding, and has the
same change to write. -/
theorem change_again
    (hreply : (deployer.written Directory.responder job directory).1 = .answered ()) :
    let other := (deployer.written Directory.responder job directory).2
    let again : Job := ⟨job.client, job.flow.deployed, job.agentId⟩
    (deployer.probed Directory.responder again other).discovery.binding =
        (deployer.probed Directory.responder job directory).discovery.binding ∧
      deployer.change Directory.responder again other =
        deployer.change Directory.responder job directory := by
  intro other again
  have hrewritten := rewritten_of_answered hreply
  have hfaults := deployer.sameFaults_written job directory
  obtain ⟨hbinding, hexisting⟩ := hfaults.rediscover hrewritten
  refine ⟨hbinding, ?_⟩
  let tools := (deployer.build job.flow.nodes job.client).tools
  have hmerged : Tool.merge (deployer.probed Directory.responder again other).discovery.existing
        tools =
      Tool.merge (deployer.probed Directory.responder job directory).discovery.existing tools := by
    rcases hexisting with hsame | hwritten
    · exact congrArg (Tool.merge · tools) hsame
    · -- What was found is what was written, and to merge the same tools again changes nothing.
      have hread : (deployer.probed Directory.responder again other).discovery.existing =
          Tool.merge (deployer.probed Directory.responder job directory).discovery.existing
            tools := hwritten
      rw [hread]
      exact Tool.merge_merge _ _
  exact congrArg (Patch.mk _) hmerged

/-- The write of the next deploy is acknowledged as well, and leaves every record as it is. -/
theorem written_again
    (hreply : (deployer.written Directory.responder job directory).1 = .answered ()) :
    let other := (deployer.written Directory.responder job directory).2
    let again : Job := ⟨job.client, job.flow.deployed, job.agentId⟩
    (deployer.written Directory.responder again other).1 = .answered () ∧
      (deployer.written Directory.responder again other).2.agent? = other.agent? ∧
      (deployer.written Directory.responder again other).2.llm? = other.llm? := by
  intro other again
  obtain ⟨hbinding, hchange⟩ := change_again hreply
  have hrewritten := rewritten_of_answered hreply
  have hthere := Directory.isSome_change?_of_rewritten hrewritten
  have hfaults := deployer.sameFaults_written job directory
  have hanswered : (deployer.written Directory.responder again other).1 = .answered () := by
    rw [written_eq_respond, hbinding, hchange]
    rw [written_eq_respond] at hreply
    exact hfaults.answered_again hreply hthere
  have hagain := rewritten_of_answered hanswered
  rw [hbinding, hchange] at hagain
  exact ⟨hanswered, hrewritten.agent?_again hagain, hrewritten.llm?_again hagain⟩

/-- The write is the last call of a deploy that comes to it. -/
theorem getLast?_callsBegun (deployer : Deployer) (job : Job) (directory : Directory)
    (calls : List Call) :
    (calls ++ deployer.callsBegun Directory.responder job directory).getLast? =
      some (.write (deployer.probed Directory.responder job directory).discovery.binding
        (deployer.change Directory.responder job directory)) := by
  rw [callsBegun, ← List.append_assoc]
  exact List.getLast?_concat

end Deployer

namespace Rehearsal.World

/-- Two deploys one after the other that write the same change to the same record: the world in
front of them, between them and behind them, and the two outcomes.  The second one leaves every
record as it is; each of them marks the flow. -/
structure Repeats (before once twice : World) (flow : Flow) (outcome again : Outcome) : Prop where
  script : again.script = outcome.script
  toolNames : again.toolNames = outcome.toolNames
  binding : again.binding = outcome.binding
  written : ∃ patch, outcome.script = patch.script ∧ outcome.toolNames = patch.toolNames ∧
    once.calls.getLast? = some (.write outcome.binding patch) ∧
    twice.calls.getLast? = some (.write outcome.binding patch) ∧
    once.directory.pushes = before.directory.pushes ++ [⟨outcome.binding, patch⟩] ∧
    twice.directory.pushes = once.directory.pushes ++ [⟨outcome.binding, patch⟩]
  agents : twice.directory.agent? = once.directory.agent?
  llms : twice.directory.llm? = once.directory.llm?
  marked : once.store.get? flow.id = some flow.deployed ∧
    twice.store.get? flow.id = some flow.deployed.deployed
  version : outcome.version.toNat = flow.version.toNat + 1 ∧
    again.version.toNat = flow.version.toNat + 2

/-- The world behind a deploy whose write is acknowledged. -/
theorem exists_perform_eq_of_answered {world : World} {client : Client} {flowId : String}
    {signal : Option String} {job : Job} (hload : Job.load world.store client flowId = .ok job)
    (hquiet : world.isRaised signal = false)
    (hreply : (world.deployer.written Directory.responder job world.directory).1 =
      .answered ()) :
    ∃ entries, world.perform (.deploy client flowId signal) =
      (.outcome (.ok (world.deployer.told Directory.responder job world.directory)),
        { world with
          store := world.store.insert job.flow.deployed
          directory := (world.deployer.written Directory.responder job world.directory).2
          calls := world.calls ++
            world.deployer.callsBegun Directory.responder job world.directory
          log := world.log ++ entries }) := by
  obtain ⟨entries, hrun⟩ := Deployer.exists_run_eq_of_answered hload hquiet hreply
  refine ⟨entries, ?_⟩
  rw [perform, deploy, hrun]

/-- A deploy that succeeded succeeds once more, as long as versions are left, and writes the same
change to the same record.  This holds whatever the first of them discovered. -/
theorem repeats_of_deploy {world : World} {client : Client} {flowId : String}
    {signal : Option String} {flow : Flow} {outcome : Outcome}
    (hflow : world.store.get? flowId = some flow)
    (hversion : flow.version.toNat < versionLimit - 1)
    (houtcome : (world.perform (.deploy client flowId signal)).1 = .outcome (.ok outcome)) :
    let once := (world.perform (.deploy client flowId signal)).2
    let twice := (once.perform (.deploy client flowId signal)).2
    ∃ again, (once.perform (.deploy client flowId signal)).1 = .outcome (.ok again) ∧
      world.Repeats once twice flow outcome again := by
  obtain ⟨job, -, hload, hquiet, hreply, -⟩ :=
    Deployer.exists_run_eq_of_result (Answer.outcome.inj houtcome)
  obtain ⟨hloaded, -, -, -, rfl⟩ := Job.load_eq_ok hload
  obtain rfl := Option.some.inj (hloaded.symm.trans hflow)
  obtain ⟨entries, hfirst⟩ := exists_perform_eq_of_answered hload hquiet hreply
  rw [hfirst] at houtcome ⊢
  obtain rfl := Except.ok.inj (Answer.outcome.inj houtcome)
  intro once twice
  -- The second deploy meets the world that the first one leaves behind.
  let next : Job := ⟨job.client, job.flow.deployed, job.agentId⟩
  have hreload : Job.load once.store job.client flowId = .ok next :=
    Job.load_insert_deployed hload
  obtain ⟨hanswered, hagents, hllms⟩ := Deployer.written_again hreply
  obtain ⟨hbinding, hchange⟩ := Deployer.change_again hreply
  obtain ⟨more, hsecond⟩ := exists_perform_eq_of_answered hreload hquiet hanswered
  have hpushed := Deployer.rewritten_of_answered hreply
  have hpushedAgain := Deployer.rewritten_of_answered hanswered
  rw [hbinding, hchange] at hpushedAgain
  have hnext : job.flow.deployed.version.toNat = job.flow.version.toNat + 1 :=
    toNat_succ_of_lt (Nat.lt_of_lt_of_le hversion (Nat.sub_le _ _))
  have hlast : job.flow.deployed.deployed.version.toNat = job.flow.version.toNat + 2 := by
    have hleft : job.flow.deployed.version.toNat < versionLimit := by omega
    exact (toNat_succ_of_lt hleft).trans (congrArg (· + 1) hnext)
  have htwice : twice = (once.perform (.deploy job.client flowId signal)).2 := rfl
  rw [hsecond] at htwice ⊢
  rw [htwice]
  refine ⟨_, rfl, ?_⟩
  constructor
  case script => exact congrArg Patch.script hchange
  case toolNames => exact congrArg Patch.toolNames hchange
  case binding => exact hbinding
  case written =>
    refine ⟨_, rfl, rfl, Deployer.getLast?_callsBegun .., ?_, hpushed.noted, hpushedAgain.noted⟩
    have hwrote := Deployer.getLast?_callsBegun once.deployer next once.directory once.calls
    rw [hbinding, hchange] at hwrote
    exact hwrote
  case agents => exact hagents
  case llms => exact hllms
  case marked => exact ⟨if_pos rfl, if_pos rfl⟩
  case version => exact ⟨hnext, hlast⟩

/-- A world whose only agent has no engine. -/
def unboundWorld : World :=
  .new (Deployer.new "https://portal.example.com/api")
    [⟨"f", "c", "", [.ofKind "n" (.webhook (some "https://h") .post)], [], 0, false, some "a"⟩]
    [⟨"a", none, []⟩] []

/-- There the first deploy degrades, and the second one, which finds the engine that the first one
wrote, does not. -/
theorem repeats_of_deploy_of_unbound :
    let once := (unboundWorld.perform (.deploy ⟨"c", []⟩ "f" none)).2
    let twice := (once.perform (.deploy ⟨"c", []⟩ "f" none)).2
    ∃ flow outcome again, unboundWorld.store.get? "f" = some flow ∧
      outcome.degraded = some .noEngineBinding ∧ again.degraded = none ∧
      unboundWorld.Repeats once twice flow outcome again := by
  intro once twice
  obtain ⟨flow, hflow, hversion⟩ :
      ∃ flow, unboundWorld.store.get? "f" = some flow ∧ flow.version = 0 := ⟨_, rfl, rfl⟩
  obtain ⟨outcome, houtcome, hdegraded⟩ : ∃ outcome,
      (unboundWorld.perform (.deploy ⟨"c", []⟩ "f" none)).1 = .outcome (.ok outcome) ∧
        outcome.degraded = some .noEngineBinding := ⟨_, rfl, rfl⟩
  have hlow : flow.version.toNat < versionLimit - 1 := by
    rw [hversion]
    decide
  obtain ⟨again, hagain, hrepeats⟩ := repeats_of_deploy hflow hlow houtcome
  refine ⟨flow, outcome, again, hflow, hdegraded, ?_, hrepeats⟩
  obtain ⟨other, hother, hfound⟩ : ∃ other,
      (once.perform (.deploy ⟨"c", []⟩ "f" none)).1 = .outcome (.ok other) ∧
        other.degraded = none := ⟨_, rfl, rfl⟩
  rw [hagain] at hother
  obtain rfl := Except.ok.inj (Answer.outcome.inj hother)
  exact hfound

end Rehearsal.World

end CallFlow
