import CallFlow.Proofs.Scene.Attempt

/-!
# Versions along a run

As long as versions stay below the last 64-bit word, a run counts them: the version of a flow is the
one that it began with plus the number of calls that marked it, whoever made them.  So no two calls
mark a flow in the same version, and a deploy whose mark is refused is late by at least one version.
Edits play no part in this; they change the definition and nothing else.
-/

namespace CallFlow.Scene

/-- Throughout a run the flow under an id stays below the last version. -/
def BelowLimit (store : Store) (moves : List Move) (flowId : String) : Prop :=
  ∀ front, front <+: moves → ∀ flow,
    ((start store).run front).store.get? flowId = some flow → flow.version.toNat < versionLimit

/-- A run with fewer moves than there are versions left stays below the last one. -/
theorem belowLimit_of_length {store : Store} {moves : List Move} {flowId : String}
    {origin : Flow} (horigin : store.get? flowId = some origin)
    (hlength : origin.version.toNat + moves.length < versionLimit) :
    BelowLimit store moves flowId := by
  intro front hfront flow hflow
  calc flow.version.toNat
      ≤ origin.version.toNat + ((start store).run front).log.length :=
        (linked_run store front).version_le horigin hflow
    _ ≤ origin.version.toNat + front.length := by
        have := length_log_le store front
        omega
    _ ≤ origin.version.toNat + moves.length := by
        have := hfront.length_le
        omega
    _ < versionLimit := hlength

theorem BelowLimit.before {store : Store} {moves : List Move} {flowId : String}
    (h : BelowLimit store moves flowId) :
    ∀ access ∈ ((start store).run moves).log, ∀ flow, access.before.get? flowId = some flow →
      flow.version.toNat < versionLimit := by
  intro access haccess flow hflow
  obtain ⟨front, hfront, hbefore⟩ := before_run store moves access haccess
  rw [hbefore] at hflow
  exact h front hfront flow hflow

/-- What versions tell at the end of a run about the flow under an id. -/
structure Versioned (store : Store) (scene : Scene) (flowId : String) : Prop where
  /-- The flow follows the one that was there first, and its versions are counted. -/
  stored : ∀ origin, store.get? flowId = some origin →
    ∃ now, scene.store.get? flowId = some now ∧ now.Follows origin (edits flowId scene.log) ∧
      now.Counts origin (commits flowId scene.log)
  absent : store.get? flowId = none → scene.store.get? flowId = none
  /-- Of two deploys that loaded the same version one fails. -/
  once : ∀ (place other : Nat) (deploy rival : Deploy) (flow theirs : Flow), place ≠ other →
    scene.deploys[place]? = some deploy → scene.deploys[other]? = some rival →
    deploy.flowId = flowId → rival.flowId = flowId →
    deploy.flow = some flow → rival.flow = some theirs → flow.version = theirs.version →
    ¬ ((∃ outcome, deploy.result? = some (.ok outcome)) ∧
      ∃ outcome, rival.result? = some (.ok outcome))
  /-- A conflict names the version that was loaded and the later one that was found. -/
  conflict : ∀ (place : Nat) (deploy : Deploy) (id : String) (expected found : UInt64),
    scene.deploys[place]? = some deploy → deploy.flowId = flowId →
    deploy.result? = some (.error (.persistenceConflict id expected found)) →
    id = flowId ∧ ∃ flow, deploy.flow = some flow ∧
      ∃ attempt : Attempt scene.log place deploy.client.id flowId flow,
        expected = flow.version ∧ found = attempt.stored.version ∧ expected < found

section

variable {store : Store} {moves : List Move} {flowId : String}

/-- A flow that a call met in a run was there first, and its versions are counted. -/
theorem BelowLimit.counts_of_mem_log (h : BelowLimit store moves flowId) {access : Access}
    (haccess : access ∈ ((start store).run moves).log) {flow : Flow}
    (hflow : access.before.get? flowId = some flow) :
    ∃ origin now : Flow, now.Counts origin (commits flowId ((start store).run moves).log) := by
  have hlinked := linked_run store moves
  obtain ⟨front, back, hlog⟩ := List.append_of_mem haccess
  have hfront : Linked store front access.before := by
    rw [hlog] at hlinked
    exact hlinked.split.1
  have hsome : (store.get? flowId).isSome := by
    rw [← hfront.isSome_get? flowId, hflow]
    rfl
  obtain ⟨origin, horigin⟩ := Option.isSome_iff_exists.mp hsome
  obtain ⟨now, -, hcounts⟩ := hlinked.counts horigin h.before
  exact ⟨origin, now, hcounts⟩

/-- A deploy that succeeds made a call that marked the flow in the version after the loaded one. -/
theorem exists_marking {place : Nat} {deploy : Deploy} {flow : Flow} {outcome : Outcome}
    (hdeploy : ((start store).run moves).deploys[place]? = some deploy)
    (hid : deploy.flowId = flowId) (hflow : deploy.flow = some flow)
    (houtcome : deploy.result? = some (.ok outcome)) :
    ∃ access ∈ ((start store).run moves).log, access.caller = some place ∧
      access.committed? flowId = some (flow.version + 1) ∧
      ∃ stored, access.before.get? flowId = some stored := by
  subst hid
  obtain ⟨loaded, hloaded, attempt, -, hnext, hcommitted⟩ :=
    (traced_run store moves hdeploy).answered _ houtcome
  obtain rfl := Option.some.inj (hflow.symm.trans hloaded)
  rw [hnext] at hcommitted
  exact ⟨attempt.commit, attempt.commit_mem, attempt.committer, hcommitted, attempt.stored,
    attempt.present⟩

/-- A deploy whose mark was refused found a later version than it had loaded. -/
theorem BelowLimit.lt_of_conflict (h : BelowLimit store moves flowId) {place : Nat}
    {clientId : String} {flow : Flow}
    (attempt : Attempt ((start store).run moves).log place clientId flowId flow)
    (hne : attempt.stored.version ≠ flow.version) : flow.version < attempt.stored.version := by
  have hcounts := attempt.counts (linked_run store moves) h.before
  have hne : attempt.stored.version.toNat ≠ flow.version.toNat :=
    fun heq => hne (UInt64.toNat_inj.mp heq)
  have hversion := hcounts.version
  rw [UInt64.lt_iff_toNat_lt]
  omega

/-- Versions are counted throughout every run, whatever deploys and others do in it. -/
theorem versioned_run (h : BelowLimit store moves flowId) :
    Versioned store ((start store).run moves) flowId where
  stored := by
    intro origin horigin
    obtain ⟨now, hnow, hfollows⟩ := (linked_run store moves).follows horigin
    obtain ⟨counted, hcounted, hcounts⟩ := (linked_run store moves).counts horigin h.before
    obtain rfl := Option.some.inj (hnow.symm.trans hcounted)
    exact ⟨now, hnow, hfollows, hcounts⟩
  absent := by
    intro hnone
    have hkept := (linked_run store moves).isSome_get? flowId
    rw [hnone] at hkept
    exact Option.isNone_iff_eq_none.mp (by simpa using hkept)
  once := by
    rintro place other deploy rival flow theirs hplace hdeploy hrival hid hsame hflow htheirs
      hversion ⟨⟨outcome, houtcome⟩, result, hresult⟩
    obtain ⟨access, haccess, hcaller, hmarked, stored, hstored⟩ :=
      exists_marking hdeploy hid hflow houtcome
    obtain ⟨later, hlater, hother, hagain, -⟩ := exists_marking hrival hsame htheirs hresult
    -- Both calls would have marked the flow in one version, so they are one call.
    obtain ⟨origin, now, hcounts⟩ := h.counts_of_mem_log haccess hstored
    rw [← hversion] at hagain
    obtain rfl := hcounts.eq_of_committed? haccess hlater hmarked hagain
    exact hplace (Option.some.inj (hcaller.symm.trans hother))
  conflict := by
    rintro place deploy id expected found hdeploy rfl hresult
    obtain ⟨-, hid, -⟩ := settled_run store moves hdeploy hresult
    obtain ⟨flow, hflow, attempt, rfl, rfl, hne⟩ :=
      (traced_run store moves hdeploy).answered _ hresult
    exact ⟨hid, flow, hflow, attempt, rfl, rfl, h.lt_of_conflict attempt hne⟩

end

/-- The run of the rivals has versions to spare; it marks the flow once. -/
theorem versioned_run_of_rival :
    BelowLimit rivalStore rivalMoves "f" ∧
      commits "f" ((start rivalStore).run rivalMoves).log = [1] ∧
      Versioned rivalStore ((start rivalStore).run rivalMoves) "f" := by
  have hbelow : BelowLimit rivalStore rivalMoves "f" := belowLimit_of_length rfl (by decide)
  exact ⟨hbelow, rfl, versioned_run hbelow⟩

end CallFlow.Scene
