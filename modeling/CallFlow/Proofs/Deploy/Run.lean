import CallFlow.Deploy.Run
import CallFlow.Proofs.Scene.Account

/-!
# The course of a deploy by itself

A deploy with nothing else going on ends in one of four ways.  It is rejected or cancelled in front
of its first call, its write fails, or it succeeds.  Since nobody touches the store between its two
calls to it, the mark of a flow that was loaded always succeeds.
-/

namespace CallFlow

/-- A flow that is in the store can be marked in the version that it has there. -/
theorem Store.commit_of_get? {store : Store} {flowId : String} {flow : Flow}
    (h : store.get? flowId = some flow) :
    store.commit flow.id flow.version = .ok (flow.deployed, store.insert flow.deployed) := by
  have hid := store.id_of_get? h
  subst hid
  rw [commit, h]
  exact if_pos rfl

namespace Deployer

variable {σ : Type}

/-- What a deploy by itself discovers. -/
def probed (deployer : Deployer) (respond : Responder σ) (job : Job) (remote : σ) : Probed σ :=
  respond.discover job.agentId deployer.discoveryTimeoutMs.toNat remote

/-- What a deploy by itself writes. -/
def change (deployer : Deployer) (respond : Responder σ) (job : Job) (remote : σ) : Patch :=
  deployer.patch job (deployer.probed respond job remote).discovery

/-- The reply to the write of a deploy by itself, and the directory after it. -/
def written (deployer : Deployer) (respond : Responder σ) (job : Job) (remote : σ) :
    Reply Unit × σ :=
  let probed := deployer.probed respond job remote
  respond (.write probed.discovery.binding (deployer.change respond job remote))
    deployer.pushTimeoutMs.toNat probed.remote

/-- The calls of a deploy by itself that comes to its write. -/
def callsBegun (deployer : Deployer) (respond : Responder σ) (job : Job) (remote : σ) : List Call :=
  let probed := deployer.probed respond job remote
  probed.calls ++ [.write probed.discovery.binding (deployer.change respond job remote)]

/-- What a client is told of a deploy by itself that succeeds. -/
def told (deployer : Deployer) (respond : Responder σ) (job : Job) (remote : σ) : Outcome :=
  let change := deployer.change respond job remote
  let discovery := (deployer.probed respond job remote).discovery
  ⟨change.script, change.toolNames, discovery.binding, discovery.degraded,
    job.flow.deployed.version⟩

/-- What is left of a deploy behind its discovery. -/
def proceed (deployer : Deployer) (respond : Responder σ) (job : Job) (probed : Probed σ)
    (store : Store) : Run σ :=
  let patch := deployer.patch job probed.discovery
  let call := Call.write probed.discovery.binding patch
  let written := respond call deployer.pushTimeoutMs.toNat probed.remote
  let conclusion := deployer.conclude job probed.discovery patch written.1 store
  ⟨conclusion.result, conclusion.store, written.2, probed.calls ++ [call],
    job.flow.linkEntries ++ probed.discovery.entries ++ conclusion.entries⟩

/-- The courses that a deploy by itself can take; what it notes in the log is left open. -/
inductive Course (deployer : Deployer) (respond : Responder σ) (client : Client) (flowId : String)
    (cancelled : Bool) (store : Store) (remote : σ) : Run σ → Prop
  | rejected {failure : Failure} {entries : List Log.Entry}
      (hload : Job.load store client flowId = .error failure) :
      Course deployer respond client flowId cancelled store remote
        ⟨.error failure, store, remote, [], entries⟩
  | cancelled {job : Job} {entries : List Log.Entry}
      (hload : Job.load store client flowId = .ok job) (hcancelled : cancelled = true) :
      Course deployer respond client flowId cancelled store remote
        ⟨.error .cancelled, store, remote, [], entries⟩
  | unwritten {job : Job} {detail : String} {entries : List Log.Entry}
      (hload : Job.load store client flowId = .ok job) (hcancelled : cancelled = false)
      (hreply : (deployer.written respond job remote).1 ≠ .answered ()) :
      Course deployer respond client flowId cancelled store remote
        ⟨.error (.remotePushFailed detail), store, (deployer.written respond job remote).2,
          deployer.callsBegun respond job remote, entries⟩
  | deployed {job : Job} {entries : List Log.Entry}
      (hload : Job.load store client flowId = .ok job) (hcancelled : cancelled = false)
      (hreply : (deployer.written respond job remote).1 = .answered ()) :
      Course deployer respond client flowId cancelled store remote
        ⟨.ok (deployer.told respond job remote),
          store.insert job.flow.deployed, (deployer.written respond job remote).2,
          deployer.callsBegun respond job remote, entries⟩

/-- A deploy that passes its checks discovers, and proceeds with what it discovered. -/
theorem run_eq_proceed {deployer : Deployer} {respond : Responder σ} {client : Client}
    {flowId : String} {store : Store} {job : Job} (hload : Job.load store client flowId = .ok job)
    (remote : σ) :
    deployer.run respond client flowId false store remote =
      deployer.proceed respond job
        (respond.discover job.agentId deployer.discoveryTimeoutMs.toNat remote) store := by
  rw [run, Job.accept, hload]
  rfl

/-- A deploy that loads its flow and is not cancelled ends as it concludes from the reply to its
write. -/
theorem exists_run_eq {deployer : Deployer} {respond : Responder σ} {client : Client}
    {flowId : String} {store : Store} {job : Job} (hload : Job.load store client flowId = .ok job)
    (remote : σ) {conclusion : Conclusion}
    (hconclude : deployer.conclude job (deployer.probed respond job remote).discovery
      (deployer.change respond job remote) (deployer.written respond job remote).1 store =
        conclusion) :
    ∃ entries, deployer.run respond client flowId false store remote =
      ⟨conclusion.result, conclusion.store, (deployer.written respond job remote).2,
        deployer.callsBegun respond job remote, entries⟩ := by
  subst hconclude
  rw [run_eq_proceed hload]
  exact ⟨_, rfl⟩

/-- A deploy by itself takes one of the four courses. -/
theorem course_run (deployer : Deployer) (respond : Responder σ) (client : Client)
    (flowId : String) (cancelled : Bool) (store : Store) (remote : σ) :
    deployer.Course respond client flowId cancelled store remote
      (deployer.run respond client flowId cancelled store remote) := by
  cases hload : Job.load store client flowId with
  | error failure =>
    rw [run, Job.accept, hload]
    exact .rejected hload
  | ok job =>
    cases cancelled with
    | true =>
      rw [run, Job.accept, hload]
      exact .cancelled hload rfl
    | false =>
      have hflow := (Job.load_eq_ok hload).1
      rcases deployer.pushFailure?_cases (deployer.written respond job remote).1 with
        ⟨hreply, hsuccess⟩ | ⟨hreply, detail, hfailure⟩
      · obtain ⟨last, hconclude⟩ : ∃ last, deployer.conclude job
            (deployer.probed respond job remote).discovery (deployer.change respond job remote)
              (deployer.written respond job remote).1 store =
                ⟨.ok (deployer.told respond job remote), store.insert job.flow.deployed, last⟩ := by
          rw [conclude, hsuccess, Store.commit_of_get? hflow]
          exact ⟨_, rfl⟩
        obtain ⟨entries, hrun⟩ := exists_run_eq hload remote hconclude
        rw [hrun]
        exact .deployed hload rfl hreply
      · obtain ⟨last, hconclude⟩ : ∃ last, deployer.conclude job
            (deployer.probed respond job remote).discovery (deployer.change respond job remote)
              (deployer.written respond job remote).1 store =
                ⟨.error (.remotePushFailed detail), store, last⟩ := by
          rw [conclude, hfailure]
          exact ⟨_, rfl⟩
        obtain ⟨entries, hrun⟩ := exists_run_eq hload remote hconclude
        rw [hrun]
        exact .unwritten hload rfl hreply

section Ends

variable {deployer : Deployer} {respond : Responder σ} {client : Client} {flowId : String}
  {cancelled : Bool} {store : Store} {remote : σ}

theorem result_run_of_load_eq_error {failure : Failure}
    (hload : Job.load store client flowId = .error failure) :
    (deployer.run respond client flowId cancelled store remote).result = .error failure := by
  rw [run, Job.accept, hload]

/-- A deploy by itself succeeds when it loads its flow and its write is acknowledged. -/
theorem exists_run_eq_of_answered {job : Job} (hload : Job.load store client flowId = .ok job)
    (hcancelled : cancelled = false)
    (hreply : (deployer.written respond job remote).1 = .answered ()) :
    ∃ entries, deployer.run respond client flowId cancelled store remote =
      ⟨.ok (deployer.told respond job remote), store.insert job.flow.deployed,
        (deployer.written respond job remote).2, deployer.callsBegun respond job remote,
        entries⟩ := by
  have hcourse := deployer.course_run respond client flowId cancelled store remote
  generalize deployer.run respond client flowId cancelled store remote = run at hcourse ⊢
  cases hcourse with
  | rejected hother =>
    rw [hload] at hother
    cases hother
  | cancelled _ hraised =>
    rw [hcancelled] at hraised
    cases hraised
  | unwritten hother _ hfailed =>
    obtain rfl := Except.ok.inj (hload.symm.trans hother)
    exact absurd hreply hfailed
  | @deployed loaded entries hother _ _ =>
    obtain rfl := Except.ok.inj (hload.symm.trans hother)
    exact ⟨entries, rfl⟩

/-- A deploy by itself that succeeds was not cancelled, its write is acknowledged, and its flow is
marked in the version that it loaded. -/
theorem exists_run_eq_of_result {outcome : Outcome}
    (h : (deployer.run respond client flowId cancelled store remote).result = .ok outcome) :
    ∃ job entries, Job.load store client flowId = .ok job ∧ cancelled = false ∧
      (deployer.written respond job remote).1 = .answered () ∧
      deployer.run respond client flowId cancelled store remote =
        ⟨.ok (deployer.told respond job remote), store.insert job.flow.deployed,
          (deployer.written respond job remote).2, deployer.callsBegun respond job remote,
          entries⟩ := by
  have hcourse := deployer.course_run respond client flowId cancelled store remote
  generalize deployer.run respond client flowId cancelled store remote = run at h hcourse ⊢
  cases hcourse with
  | rejected _ => cases h
  | cancelled _ _ => cases h
  | unwritten _ _ _ => cases h
  | @deployed job entries hload hcancelled hreply =>
    exact ⟨job, entries, hload, hcancelled, hreply, rfl⟩

/-- A deploy by itself that succeeds has loaded its flow, its write is acknowledged, and it tells
what it wrote. -/
theorem exists_job_of_result_run {outcome : Outcome}
    (h : (deployer.run respond client flowId cancelled store remote).result = .ok outcome) :
    ∃ job, Job.load store client flowId = .ok job ∧
      (deployer.written respond job remote).1 = .answered () ∧
      outcome = deployer.told respond job remote ∧
      (deployer.run respond client flowId cancelled store remote).remote =
        (deployer.written respond job remote).2 := by
  obtain ⟨job, entries, hload, -, hreply, hrun⟩ := exists_run_eq_of_result h
  rw [hrun] at h ⊢
  exact ⟨job, hload, hreply, (Except.ok.inj h).symm, rfl⟩

end Ends

end Deployer

end CallFlow
