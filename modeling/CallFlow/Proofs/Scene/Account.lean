import CallFlow.Proofs.Flow.WellFormed
import CallFlow.Proofs.Scene.Run

/-!
# What a deploy has done so far

The phase of a deploy tells which flow it holds, which calls to the directory it has begun, and
which reply its write had.  Two facts carry this through a run: a flow that was loaded stays in the
store, so that marking it fails for its version only; and a failure of the directory never becomes
the failure of a deploy, since discovery goes on without tools and a failed write is a failed push.
-/

namespace CallFlow

/-! ## Loading -/

/-- A failure in front of the first call: the flow is missing, invalid or not linked. -/
def Failure.isRejection : Failure → Bool
  | .flowNotFound _ | .invalidFlow _ | .agentNotLinked _ => true
  | _ => false

/-- The failures by which a flow is rejected, each with its reason. -/
inductive Store.Rejects (store : Store) (clientId flowId : String) : Failure → Prop
  | missing (hflow : store.owned? clientId flowId = none) :
      Rejects store clientId flowId (.flowNotFound flowId)
  | invalid {flow : Flow} {detail : String} (hflow : store.owned? clientId flowId = some flow)
      (hvalid : flow.validate = .error (.invalidFlow detail)) :
      Rejects store clientId flowId (.invalidFlow detail)
  | unlinked {flow : Flow} (hflow : store.owned? clientId flowId = some flow)
      (hvalid : flow.validate = .ok ()) (hlinked : flow.linkedAgent = none) :
      Rejects store clientId flowId (.agentNotLinked flowId)

theorem Store.Rejects.isRejection {store : Store} {clientId flowId : String} {failure : Failure}
    (h : store.Rejects clientId flowId failure) : failure.isRejection = true := by
  cases h <;> rfl

namespace Job

theorem load_eq_ok {store : Store} {client : Client} {flowId : String} {job : Job}
    (h : Job.load store client flowId = .ok job) :
    store.get? flowId = some job.flow ∧ job.flow.clientId = client.id ∧
      job.flow.validate = .ok () ∧ job.flow.linkedAgent = some job.agentId ∧
      job.client = client := by
  rw [Job.load] at h
  cases hload : store.load client.id flowId with
  | error failure => simp [hload, bind, Except.bind] at h
  | ok flow =>
    obtain ⟨hflow, howner⟩ := Store.load_eq_ok_iff.mp hload
    cases hvalid : flow.validate with
    | error failure => simp [hload, hvalid, bind, Except.bind] at h
    | ok value =>
      cases hlinked : flow.linkedAgent with
      | none => simp [hload, hvalid, hlinked, bind, Except.bind] at h
      | some agentId =>
        simp only [hload, hvalid, hlinked, bind, Except.bind, pure, Except.pure,
          Except.ok.injEq] at h
        subst h
        exact ⟨hflow, howner, hvalid, hlinked, rfl⟩

/-- A flow that is fit for a deploy is loaded. -/
theorem load_of_linkedAgent {store : Store} {client : Client} {flowId agentId : String}
    {flow : Flow} (hflow : store.get? flowId = some flow) (howner : flow.clientId = client.id)
    (hvalid : flow.validate = .ok ()) (hlinked : flow.linkedAgent = some agentId) :
    Job.load store client flowId = .ok ⟨client, flow, agentId⟩ := by
  have hload := Store.load_eq_ok_iff.mpr ⟨hflow, howner⟩
  simp [Job.load, hload, hvalid, hlinked, bind, Except.bind, pure, Except.pure]

theorem rejects_of_load {store : Store} {client : Client} {flowId : String} {failure : Failure}
    (h : Job.load store client flowId = .error failure) :
    store.Rejects client.id flowId failure := by
  rw [Job.load, Store.load] at h
  cases hflow : store.owned? client.id flowId with
  | none =>
    simp only [hflow, bind, Except.bind, Except.error.injEq] at h
    rw [← h]
    exact .missing hflow
  | some flow =>
    rcases flow.validate_cases with ⟨-, hvalid⟩ | ⟨place, detail, -, hvalid⟩
    · cases hlinked : flow.linkedAgent with
      | none =>
        simp only [hflow, hvalid, hlinked, bind, Except.bind, throw, throwThe,
          MonadExceptOf.throw, Except.error.injEq] at h
        rw [← h]
        exact .unlinked hflow hvalid hlinked
      | some agentId =>
        simp [hflow, hvalid, hlinked, bind, Except.bind, pure, Except.pure] at h
    · simp only [hflow, hvalid, bind, Except.bind, Except.error.injEq] at h
      rw [← h]
      exact .invalid hflow hvalid

theorem load_eq_error {store : Store} {client : Client} {flowId : String} {failure : Failure}
    (h : Job.load store client flowId = .error failure) : failure.isRejection = true :=
  (rejects_of_load h).isRejection

end Job

/-! ## The flow of a deploy -/

/-- The job that an activity works at. -/
def Activity.job? : Activity → Option Job
  | .probing job | .reading job _ | .pushing job _ _ => some job
  | .finished _ => none

/-- The job that a deploy works at. -/
def Phase.job? : Phase → Option Job
  | .called => none
  | .loaded job | .acknowledged job _ _ => some job
  | .running activity => activity.job?

namespace Deploy

@[simp]
theorem goOn_phase (deploy : Deploy) (activity : Activity) :
    (deploy.goOn activity).phase = .running activity :=
  rfl

@[simp]
theorem goOn_calls (deploy : Deploy) (activity : Activity) :
    (deploy.goOn activity).calls = deploy.calls ++ activity.call?.toList :=
  rfl

@[simp]
theorem goOn_writes (deploy : Deploy) (activity : Activity) :
    (deploy.goOn activity).writes =
      deploy.writes ++ activity.call?.toList.filter Call.isWrite :=
  List.filter_append ..

/-- A deploy works at the flow that it loaded, and this flow is still in the store. -/
structure Grounded (deploy : Deploy) (store : Store) : Prop where
  flow_of_job : ∀ job, deploy.phase.job? = some job → deploy.flow = some job.flow
  called : deploy.phase = .called → deploy.flow = none
  id_of_flow : ∀ flow, deploy.flow = some flow → flow.id = deploy.flowId
  present : deploy.flow.isSome → (store.get? deploy.flowId).isSome

theorem Grounded.new (store : Store) (deployer : Deployer) (client : Client) (flowId : String)
    (signal : Option String) : (Deploy.new deployer client flowId signal).Grounded store where
  flow_of_job := nofun
  called := fun _ => rfl
  id_of_flow := nofun
  present := nofun

theorem Grounded.after {deploy : Deploy} {access : Access} (h : deploy.Grounded access.before) :
    deploy.Grounded access.after where
  flow_of_job := h.flow_of_job
  called := h.called
  id_of_flow := h.id_of_flow
  present := fun hflow => by
    rw [access.isSome_after_get?]
    exact h.present hflow

/-- A step keeps the flow of a deploy, or loads it from the store. -/
theorem Grounded.turn {deploy next : Deploy} {cancelled : Bool} {store : Store}
    {request : Option Store.Request} (h : deploy.Grounded store)
    (hturn : deploy.Turn cancelled store request next) : next.Grounded store := by
  obtain ⟨hjob, hcalled, hid, hpresent⟩ := h
  cases hturn with
  | stay => exact ⟨hjob, hcalled, hid, hpresent⟩
  | refuse hphase hload => exact ⟨nofun, nofun, hid, hpresent⟩
  | load hphase hload =>
    obtain ⟨hflow, -, -, -, -⟩ := Job.load_eq_ok hload
    refine ⟨?_, nofun, ?_, ?_⟩
    · rintro job hjob
      cases hjob
      rfl
    · rintro flow hsome
      cases hsome
      exact store.id_of_get? hflow
    · intro _
      simp [hflow]
  | giveUp hphase hcancelled => exact ⟨nofun, nofun, hid, hpresent⟩
  | probe hphase hcancelled =>
    refine ⟨fun job hsome => hjob job ?_, nofun, hid, hpresent⟩
    rw [hphase]
    exact hsome
  | afterAgent hphase hnext =>
    refine ⟨fun job hsome => hjob job ?_, nofun, hid, hpresent⟩
    rw [hphase]
    rcases hnext with ⟨llmId, -, rfl⟩ | ⟨discovery, -, -, rfl⟩ | ⟨discovery, -, -, rfl⟩
    · exact hsome
    · cases hsome
    · exact hsome
  | afterLlm hphase hnext =>
    refine ⟨fun job hsome => hjob job ?_, nofun, hid, hpresent⟩
    rw [hphase]
    rcases hnext with ⟨-, rfl⟩ | ⟨-, rfl⟩
    · cases hsome
    · exact hsome
  | fail hphase hreply => exact ⟨nofun, nofun, hid, hpresent⟩
  | acknowledge hphase =>
    refine ⟨fun job hsome => hjob job ?_, nofun, hid, hpresent⟩
    rw [hphase]
    exact hsome
  | mark hphase hcommit => exact ⟨nofun, nofun, hid, hpresent⟩
  | conflict hphase hcommit => exact ⟨nofun, nofun, hid, hpresent⟩

/-- A flow that is to be marked is in the store, under the id that the deploy was called with. -/
theorem Grounded.of_acknowledged {deploy : Deploy} {store : Store} {job : Job}
    {discovery : Discovery} {patch : Patch} (h : deploy.Grounded store)
    (hphase : deploy.phase = .acknowledged job discovery patch) :
    deploy.flow = some job.flow ∧ job.flow.id = deploy.flowId ∧
      ∃ stored, store.get? deploy.flowId = some stored := by
  have hflow := h.flow_of_job job (by rw [hphase]; rfl)
  refine ⟨hflow, h.id_of_flow _ hflow, ?_⟩
  exact Option.isSome_iff_exists.mp (h.present (by rw [hflow]; rfl))

/-- The flow is still there, so only its version can be in the way of its mark. -/
theorem Grounded.failure_of_commit {deploy : Deploy} {store : Store} {job : Job}
    {discovery : Discovery} {patch : Patch} {failure : Failure} (h : deploy.Grounded store)
    (hphase : deploy.phase = .acknowledged job discovery patch)
    (hcommit : store.commit job.flow.id job.flow.version = .error failure) :
    ∃ found, failure = .persistenceConflict deploy.flowId job.flow.version found := by
  obtain ⟨-, hid, stored, hstored⟩ := h.of_acknowledged hphase
  rw [hid] at hcommit
  exact ⟨stored.version, (Store.commit_eq_error hstored hcommit).1⟩

/-! ## The calls of a deploy -/

/-- A deploy began one write, of the script of the flow that it loaded. -/
def WroteScript (deploy : Deploy) (script : String) : Prop :=
  ∃ flow target patch, deploy.flow = some flow ∧ deploy.writes = [.write target patch] ∧
    patch.script = script ∧ script = (Script.compile flow.nodes).text

theorem WroteScript.wrote {deploy : Deploy} {script : String} (h : deploy.WroteScript script) :
    ∃ target patch, deploy.writes = [.write target patch] := by
  obtain ⟨flow, target, patch, -, hwrites, -⟩ := h
  exact ⟨target, patch, hwrites⟩

/-- The calls of a finished deploy and the reply to its write, by its result. -/
def Settled (deploy : Deploy) : Except Failure Outcome → Prop
  | .ok outcome => deploy.WroteScript outcome.script ∧ deploy.writeReply = some (.answered ())
  | .error (.flowNotFound _) | .error (.invalidFlow _) | .error (.agentNotLinked _) =>
    deploy.calls = []
  | .error .cancelled => deploy.writes = []
  | .error (.remotePushFailed _) =>
    (∃ script, deploy.WroteScript script) ∧
      ∃ reply, deploy.writeReply = some reply ∧ reply ≠ .answered ()
  | .error (.persistenceConflict flowId expected _) =>
    ((∃ script, deploy.WroteScript script) ∧ deploy.writeReply = some (.answered ())) ∧
      flowId = deploy.flowId ∧ ∃ flow, deploy.flow = some flow ∧ expected = flow.version
  | .error _ => False

/-- The calls of a deploy and the reply to its write, by its phase. -/
def Accounted (deploy : Deploy) : Prop :=
  match deploy.phase with
  | .called | .loaded _ => deploy.calls = []
  | .running (.probing _) | .running (.reading _ _) => deploy.writes = []
  | .running (.pushing _ _ patch) => deploy.WroteScript patch.script
  | .acknowledged _ _ patch =>
    deploy.WroteScript patch.script ∧ deploy.writeReply = some (.answered ())
  | .running (.finished result) => deploy.Settled result

theorem Accounted.new (deployer : Deployer) (client : Client) (flowId : String)
    (signal : Option String) : (Deploy.new deployer client flowId signal).Accounted :=
  rfl

theorem writes_eq_nil {deploy : Deploy} (h : deploy.calls = []) : deploy.writes = [] := by
  rw [writes, h]
  rfl

/-- The write that a deploy begins carries the script of its flow. -/
theorem wroteScript_goOn {deploy : Deploy} {job : Job} (discovery : Discovery)
    (hflow : deploy.flow = some job.flow) (hwrites : deploy.writes = []) :
    (deploy.goOn (.pushing job discovery (deploy.deployer.patch job discovery))).WroteScript
      (deploy.deployer.patch job discovery).script := by
  refine ⟨job.flow, discovery.binding, deploy.deployer.patch job discovery, hflow, ?_, rfl, rfl⟩
  rw [goOn_writes, hwrites]
  rfl

theorem wroteScript_finish {deploy : Deploy} {script : String} (h : deploy.WroteScript script)
    (result : Except Failure Outcome) :
    (deploy.goOn (.finished result)).WroteScript script := by
  obtain ⟨flow, target, patch, hflow, hwrites, hpatch, hscript⟩ := h
  refine ⟨flow, target, patch, hflow, ?_, hpatch, hscript⟩
  rw [goOn_writes, hwrites]
  rfl

theorem settled_of_isRejection {deploy : Deploy} {failure : Failure}
    (hfailure : failure.isRejection = true) (hcalls : deploy.calls = []) :
    (deploy.goOn (.finished (.error failure))).Settled (.error failure) := by
  cases failure <;> simp_all [Failure.isRejection, Settled, Activity.call?]

theorem settled_of_cancelled {deploy : Deploy} (hwrites : deploy.writes = []) :
    (deploy.goOn (.finished (.error .cancelled))).Settled (.error .cancelled) := by
  rw [Settled, goOn_writes, hwrites]
  rfl

/-- A step keeps the account of a deploy. -/
theorem Accounted.turn {deploy next : Deploy} {cancelled : Bool} {store : Store}
    {request : Option Store.Request} (hgrounded : deploy.Grounded store)
    (h : deploy.Accounted) (hturn : deploy.Turn cancelled store request next) :
    next.Accounted := by
  cases hturn with
  | stay => exact h
  | refuse hphase hload =>
    rw [Accounted, hphase] at h
    exact settled_of_isRejection (Job.load_eq_error hload) h
  | load hphase hload =>
    rw [Accounted, hphase] at h
    exact h
  | giveUp hphase hcancelled =>
    rw [Accounted, hphase] at h
    exact settled_of_cancelled (writes_eq_nil h)
  | probe hphase hcancelled =>
    rw [Accounted, hphase] at h
    rw [Accounted, goOn_phase, goOn_writes, writes_eq_nil h]
    rfl
  | @afterAgent job reply activity hphase hnext =>
    rw [Accounted, hphase] at h
    have hflow := hgrounded.flow_of_job job (by rw [hphase]; rfl)
    rcases hnext with ⟨llmId, -, rfl⟩ | ⟨discovery, -, -, rfl⟩ | ⟨discovery, -, -, rfl⟩
    · change (deploy.goOn (.reading job llmId)).writes = []
      rw [goOn_writes, h]
      rfl
    · exact settled_of_cancelled h
    · exact wroteScript_goOn discovery hflow h
  | @afterLlm job llmId reply activity hphase hnext =>
    rw [Accounted, hphase] at h
    have hflow := hgrounded.flow_of_job job (by rw [hphase]; rfl)
    rcases hnext with ⟨-, rfl⟩ | ⟨-, rfl⟩
    · exact settled_of_cancelled h
    · exact wroteScript_goOn (Discovery.afterLlm llmId reply) hflow h
  | @fail job discovery patch reply detail hphase hreply =>
    rw [Accounted, hphase] at h
    exact ⟨⟨_, wroteScript_finish h _⟩, reply, rfl, hreply⟩
  | acknowledge hphase =>
    rw [Accounted, hphase] at h
    exact ⟨h, rfl⟩
  | mark hphase hcommit =>
    rw [Accounted, hphase] at h
    exact ⟨wroteScript_finish h.1 _, h.2⟩
  | @conflict job discovery patch failure hphase hcommit =>
    rw [Accounted, hphase] at h
    obtain ⟨hflow, -, -⟩ := hgrounded.of_acknowledged hphase
    obtain ⟨found, rfl⟩ := hgrounded.failure_of_commit hphase hcommit
    exact ⟨⟨⟨_, wroteScript_finish h.1 _⟩, h.2⟩, rfl, job.flow, hflow, rfl⟩

end Deploy

namespace Scene

/-- Throughout every run a deploy holds its flow and has begun the calls that its phase tells. -/
theorem accounted_run (store : Store) (moves : List Move) {place : Nat} {deploy : Deploy}
    (hdeploy : ((start store).run moves).deploys[place]? = some deploy) :
    deploy.Grounded ((start store).run moves).store ∧ deploy.Accounted := by
  refine deploy_induction (P := fun _ store _ deploy => deploy.Grounded store ∧ deploy.Accounted)
    ?_ ?_ ?_ ?_ store moves hdeploy
  · intro log store place deployer client flowId signal _
    exact ⟨.new store deployer client flowId signal, .new deployer client flowId signal⟩
  · intro log place deploy access h _
    exact ⟨h.1.after, h.2⟩
  · intro log store place deploy next cancelled h hturn
    exact ⟨h.1.turn hturn, h.2.turn h.1 hturn⟩
  · intro log place deploy next cancelled access h hturn _
    exact ⟨(h.1.turn hturn).after, h.2.turn h.1 hturn⟩

theorem settled_run (store : Store) (moves : List Move) {place : Nat} {deploy : Deploy}
    {result : Except Failure Outcome}
    (hdeploy : ((start store).run moves).deploys[place]? = some deploy)
    (hresult : deploy.result? = some result) : deploy.Settled result := by
  have haccounted := (accounted_run store moves hdeploy).2
  rw [Deploy.result?] at hresult
  split at hresult
  · next ended hphase =>
    cases hresult
    rw [Deploy.Accounted, hphase] at haccounted
    exact haccounted
  · cases hresult

end Scene

end CallFlow
