import CallFlow.Proofs.Scene.Account

/-!
# The two calls of a deploy to the store

A deploy loads its flow, and when its write is acknowledged it marks the flow, expecting the version
that it loaded.  An attempt is the place of these two calls in the history of the store, with what
each of them found there.  Every deploy that had its second call answered has an attempt, so that
what happened to the flow in between can be read off the history.
-/

namespace CallFlow

/-- The call in a history that loaded a flow for the deploy at a place. -/
structure Loading (log : List Access) (place : Nat) (clientId flowId : String) (flow : Flow) where
  front : List Access
  load : Access
  back : List Access
  log_eq : log = front ++ load :: back
  loader : load.caller = some place
  load_request : load.request = .load clientId flowId
  found : load.before.get? flowId = some flow

/-- The calls in a history by which the deploy at a place loaded a flow and asked for it to be
marked in the version that it had loaded, with the flow that was stored by then. -/
structure Attempt (log : List Access) (place : Nat) (clientId flowId : String) (flow : Flow)
    extends Loading log place clientId flowId flow where
  meanwhile : List Access
  commit : Access
  rest : List Access
  back_eq : back = meanwhile ++ commit :: rest
  committer : commit.caller = some place
  commit_request : commit.request = .commit flowId flow.version
  stored : Flow
  present : commit.before.get? flowId = some stored

section

variable {log : List Access} {place : Nat} {clientId flowId : String} {flow : Flow}

theorem Loading.mem_of_mem_back (loading : Loading log place clientId flowId flow)
    {access : Access} (h : access ∈ loading.back) : access ∈ log := by
  rw [loading.log_eq]
  simp [h]

/-- A later call leaves the loading where it is. -/
def Loading.snoc (loading : Loading log place clientId flowId flow) (access : Access) :
    Loading (log ++ [access]) place clientId flowId flow :=
  { loading with
    back := loading.back ++ [access]
    log_eq := by simp [loading.log_eq] }

/-- A later call leaves the attempt where it is. -/
def Attempt.snoc (attempt : Attempt log place clientId flowId flow) (access : Access) :
    Attempt (log ++ [access]) place clientId flowId flow :=
  { attempt.toLoading.snoc access, attempt with
    rest := attempt.rest ++ [access]
    back_eq := by simp [Loading.snoc, attempt.back_eq] }

/-- A loading becomes an attempt by the call that asks for the mark. -/
def Loading.attempt (loading : Loading log place clientId flowId flow) {access : Access}
    (hcaller : access.caller = some place) (hrequest : access.request = .commit flowId flow.version)
    {stored : Flow} (hstored : access.before.get? flowId = some stored) :
    Attempt (log ++ [access]) place clientId flowId flow :=
  { loading.snoc access with
    meanwhile := loading.back
    commit := access
    rest := []
    back_eq := rfl
    committer := hcaller
    commit_request := hrequest
    stored := stored
    present := hstored }

namespace Attempt

variable (attempt : Attempt log place clientId flowId flow)

theorem commit_mem : attempt.commit ∈ log :=
  attempt.mem_of_mem_back (by rw [attempt.back_eq]; simp)

theorem mem_of_mem_meanwhile {access : Access} (h : access ∈ attempt.meanwhile) :
    access ∈ log :=
  attempt.mem_of_mem_back (by rw [attempt.back_eq]; simp [h])

/-- The calls between the two account for every change from the store that the first one met to
the store that the second one met. -/
theorem linked_meanwhile {first last : Store} (h : Linked first log last) :
    Linked attempt.load.before attempt.meanwhile attempt.commit.before := by
  have hafter : attempt.load.after = attempt.load.before :=
    Access.after_eq_before_of_load attempt.load_request
  rw [attempt.log_eq] at h
  have hback := h.split.2
  rw [attempt.back_eq] at hback
  rw [← hafter]
  exact hback.split.1

/-- The flow that is to be marked came of the one that was loaded by the calls in between. -/
theorem follows {first last : Store} (h : Linked first log last) :
    attempt.stored.Follows flow (edits flowId attempt.meanwhile) := by
  obtain ⟨now, hnow, hfollows⟩ := (attempt.linked_meanwhile h).follows attempt.found
  obtain rfl := Option.some.inj (attempt.present.symm.trans hnow)
  exact hfollows

theorem counts {first last : Store} (h : Linked first log last)
    (hlimit : ∀ access ∈ log, ∀ flow, access.before.get? flowId = some flow →
      flow.version.toNat < versionLimit) :
    attempt.stored.Counts flow (commits flowId attempt.meanwhile) := by
  obtain ⟨now, hnow, hcounts⟩ := (attempt.linked_meanwhile h).counts attempt.found
    fun access haccess => hlimit access (attempt.mem_of_mem_meanwhile haccess)
  obtain rfl := Option.some.inj (attempt.present.symm.trans hnow)
  exact hcounts

end Attempt

end

namespace Deploy

/-- What the result of a deploy tells of its calls to the store: the flow was stored in the version
that was loaded, or it was not and the result says so. -/
def Answered (deploy : Deploy) (log : List Access) (place : Nat) :
    Except Failure Outcome → Prop
  | .ok outcome =>
    ∃ flow, deploy.flow = some flow ∧
      ∃ attempt : Attempt log place deploy.client.id deploy.flowId flow,
        attempt.stored.version = flow.version ∧ outcome.version = flow.version + 1 ∧
          attempt.commit.committed? deploy.flowId = some outcome.version
  | .error (.persistenceConflict _ expected found) =>
    ∃ flow, deploy.flow = some flow ∧
      ∃ attempt : Attempt log place deploy.client.id deploy.flowId flow,
        expected = flow.version ∧ found = attempt.stored.version ∧ found ≠ expected
  | .error _ => True

theorem Answered.snoc {deploy : Deploy} {log : List Access} {place : Nat}
    {result : Except Failure Outcome} (h : deploy.Answered log place result) (access : Access) :
    deploy.Answered (log ++ [access]) place result := by
  cases result with
  | ok outcome =>
    obtain ⟨flow, hflow, attempt, hversion, hnext, hcommitted⟩ := h
    exact ⟨flow, hflow, attempt.snoc access, hversion, hnext, hcommitted⟩
  | error failure =>
    cases failure with
    | persistenceConflict id expected found =>
      obtain ⟨flow, hflow, attempt, hexpected, hfound, hne⟩ := h
      exact ⟨flow, hflow, attempt.snoc access, hexpected, hfound, hne⟩
    | _ => trivial

/-- The calls of a deploy to the store are in the history. -/
structure Traced (deploy : Deploy) (log : List Access) (place : Nat) : Prop where
  loaded : ∀ flow, deploy.flow = some flow →
    Nonempty (Loading log place deploy.client.id deploy.flowId flow)
  answered : ∀ result, deploy.result? = some result → deploy.Answered log place result

theorem Traced.new (log : List Access) (place : Nat) (deployer : Deployer) (client : Client)
    (flowId : String) (signal : Option String) :
    (Deploy.new deployer client flowId signal).Traced log place where
  loaded := nofun
  answered := nofun

theorem Traced.snoc {deploy : Deploy} {log : List Access} {place : Nat}
    (h : deploy.Traced log place) (access : Access) : deploy.Traced (log ++ [access]) place where
  loaded := fun flow hflow => (h.loaded flow hflow).map fun loading => loading.snoc access
  answered := fun result hresult => (h.answered result hresult).snoc access

/-- A step without a call to the store keeps the trace: it ends a deploy only by giving up or by a
failed write. -/
theorem Traced.quiet {deploy next : Deploy} {log : List Access} {place : Nat}
    {cancelled : Bool} {store : Store} (h : deploy.Traced log place)
    (hturn : deploy.Turn cancelled store none next) : next.Traced log place := by
  cases hturn with
  | stay => exact h
  | giveUp hphase hcancelled =>
    refine ⟨h.loaded, ?_⟩
    rintro result hresult
    cases hresult
    trivial
  | probe hphase hcancelled => exact ⟨h.loaded, nofun⟩
  | afterAgent hphase hnext =>
    refine ⟨h.loaded, ?_⟩
    rintro result hresult
    rcases hnext with ⟨llmId, -, rfl⟩ | ⟨discovery, -, -, rfl⟩ | ⟨discovery, -, -, rfl⟩
    · cases hresult
    · cases hresult
      trivial
    · cases hresult
  | afterLlm hphase hnext =>
    refine ⟨h.loaded, ?_⟩
    rintro result hresult
    rcases hnext with ⟨-, rfl⟩ | ⟨-, rfl⟩
    · cases hresult
      trivial
    · cases hresult
  | fail hphase hreply =>
    refine ⟨h.loaded, ?_⟩
    rintro result hresult
    cases hresult
    trivial
  | acknowledge hphase => exact ⟨h.loaded, nofun⟩

theorem answered_of_isRejection {deploy : Deploy} {failure : Failure}
    (h : failure.isRejection = true) (log : List Access) (place : Nat) :
    deploy.Answered log place (.error failure) := by
  cases failure with
  | persistenceConflict flowId expected found => cases h
  | _ => trivial

/-- A step that calls the store puts the call into the trace. -/
theorem Traced.call {deploy next : Deploy} {log : List Access} {place : Nat}
    {cancelled : Bool} {access : Access} (hgrounded : deploy.Grounded access.before)
    (h : deploy.Traced log place)
    (hturn : deploy.Turn cancelled access.before (some access.request) next)
    (hcaller : access.caller = some place) : next.Traced (log ++ [access]) place := by
  generalize hrequest : some access.request = request at hturn
  cases hturn with
  | stay => cases hrequest
  | refuse hphase hload =>
    refine ⟨(h.snoc access).loaded, ?_⟩
    rintro result hresult
    cases hresult
    exact answered_of_isRejection (Job.load_eq_error hload) _ _
  | @load job hphase hload =>
    obtain ⟨hflow, -, -, -, -⟩ := Job.load_eq_ok hload
    refine ⟨?_, nofun⟩
    rintro flow hsome
    cases hsome
    exact ⟨log, access, [], rfl, hcaller, Option.some.inj hrequest, hflow⟩
  | giveUp hphase hcancelled => cases hrequest
  | probe hphase hcancelled => cases hrequest
  | afterAgent hphase hnext => cases hrequest
  | afterLlm hphase hnext => cases hrequest
  | fail hphase hreply => cases hrequest
  | acknowledge hphase => cases hrequest
  | @mark job discovery patch marked changed hphase hcommit =>
    obtain ⟨hflow, hid, stored, hstored⟩ := hgrounded.of_acknowledged hphase
    obtain ⟨loading⟩ := h.loaded job.flow hflow
    rw [hid] at hcommit hrequest
    have hcommitted : access.committed? deploy.flowId = some marked.version := by
      simp [Access.committed?, Access.result, Option.some.inj hrequest, Store.answer, hcommit,
        Store.settle]
    obtain ⟨flow, hget, hversion, hmarked, -⟩ := Store.commit_eq_ok hcommit
    obtain rfl := Option.some.inj (hget.symm.trans hstored)
    have hnext : marked.version = job.flow.version + 1 := by
      rw [hmarked, ← hversion]
      rfl
    refine ⟨(h.snoc access).loaded, ?_⟩
    rintro result hresult
    cases hresult
    exact ⟨job.flow, hflow, loading.attempt hcaller (Option.some.inj hrequest) hstored, hversion,
      hnext, hcommitted⟩
  | @conflict job discovery patch failure hphase hcommit =>
    obtain ⟨hflow, hid, stored, hstored⟩ := hgrounded.of_acknowledged hphase
    obtain ⟨loading⟩ := h.loaded job.flow hflow
    rw [hid] at hcommit hrequest
    obtain ⟨rfl, hne⟩ := Store.commit_eq_error hstored hcommit
    refine ⟨(h.snoc access).loaded, ?_⟩
    rintro result hresult
    cases hresult
    exact ⟨job.flow, hflow, loading.attempt hcaller (Option.some.inj hrequest) hstored, rfl, rfl,
      hne⟩

end Deploy

/-- Throughout every run the history of the store holds the calls of a deploy. -/
theorem Scene.traced_run (store : Store) (moves : List Move) {place : Nat} {deploy : Deploy}
    (hdeploy : ((start store).run moves).deploys[place]? = some deploy) :
    deploy.Traced ((start store).run moves).log place := by
  refine (deploy_induction (P := fun log store place deploy =>
    deploy.Grounded store ∧ deploy.Traced log place) ?_ ?_ ?_ ?_ store moves hdeploy).2
  · intro log store place deployer client flowId signal _
    exact ⟨.new store deployer client flowId signal,
      .new log place deployer client flowId signal⟩
  · intro log place deploy access h _
    exact ⟨h.1.after, h.2.snoc access⟩
  · intro log store place deploy next cancelled h hturn
    exact ⟨h.1.turn hturn, h.2.quiet hturn⟩
  · intro log place deploy next cancelled access h hturn hcaller
    exact ⟨(h.1.turn hturn).after, h.2.call h.1 hturn hcaller⟩

end CallFlow
