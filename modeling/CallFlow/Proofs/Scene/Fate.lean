import CallFlow.Proofs.Scene.Account

/-!
# How a deploy ends

A deploy ends in one of five ways, and each of them fixes what it did to the directory and to the
store.  The main theorem says so for every deploy of every run, whatever the directory answers,
whichever signals are raised, and whatever else happens between the steps of the deploy.

What a deploy did to the store is read off the history of the store, which accounts for every change
(`Linked`): each call is there with its caller and with the stores in front of it and behind it.
-/

namespace CallFlow

/-! ## The store and one caller -/

/-- No call of a deploy changed the store. -/
def KeptBy (place : Nat) (log : List Access) : Prop :=
  ∀ access ∈ log, access.caller = some place → access.after = access.before

/-- One call of a deploy changed the store: it put the flow under an id one version on and made it
active. -/
def MarkedOnceBy (place : Nat) (flowId : String) (log : List Access) : Prop :=
  ∃ front access back, log = front ++ access :: back ∧ access.caller = some place ∧
    KeptBy place front ∧ KeptBy place back ∧
    ∃ flow, access.before.get? flowId = some flow ∧ flow.id = flowId ∧
      access.after =
        access.before.insert { flow with version := flow.version + 1, active := true }

theorem KeptBy.append {place : Nat} {front back : List Access} (hfront : KeptBy place front)
    (hback : KeptBy place back) : KeptBy place (front ++ back) := by
  intro access haccess hcaller
  rcases List.mem_append.mp haccess with h | h
  · exact hfront access h hcaller
  · exact hback access h hcaller

theorem keptBy_singleton {place : Nat} {access : Access}
    (h : access.caller = some place → access.after = access.before) :
    KeptBy place [access] := by
  intro other hother
  rw [List.mem_singleton] at hother
  subst hother
  exact h

theorem MarkedOnceBy.append {place : Nat} {flowId : String} {log back : List Access}
    (h : MarkedOnceBy place flowId log) (hback : KeptBy place back) :
    MarkedOnceBy place flowId (log ++ back) := by
  obtain ⟨front, access, rest, rfl, hcaller, hfront, hrest, hflow⟩ := h
  exact ⟨front, access, rest ++ back, by simp, hcaller, hfront, hrest.append hback, hflow⟩

namespace Deploy

/-- Whether a deploy ended with an outcome. -/
def Succeeded (deploy : Deploy) : Prop :=
  ∃ outcome, deploy.result? = some (.ok outcome)

/-- One step of a deploy and the store: nothing happens, the store is left as it is by a deploy that
has not succeeded, or the flow is marked and the deploy succeeds. -/
theorem Turn.store_cases {deploy next : Deploy} {cancelled : Bool} {store : Store}
    {request : Option Store.Request} (hturn : deploy.Turn cancelled store request next) :
    (request = none ∧ next = deploy) ∨
    (¬ deploy.Succeeded ∧ ¬ next.Succeeded ∧ ∀ access : Access, access.before = store →
      request = some access.request → access.after = access.before) ∨
    (¬ deploy.Succeeded ∧ next.Succeeded ∧ next.flowId = deploy.flowId ∧
      ∃ job discovery patch flow changed,
        deploy.phase = .acknowledged job discovery patch ∧
        request = some (.commit job.flow.id job.flow.version) ∧
        store.commit job.flow.id job.flow.version = .ok (flow, changed)) := by
  -- Most steps do not call the store.
  have hquiet : ∀ access : Access, access.before = store → none = some access.request →
      access.after = access.before := by
    rintro access - hrequest
    cases hrequest
  cases hturn with
  | stay => exact .inl ⟨rfl, rfl⟩
  | refuse hphase hload =>
    refine .inr (.inl ⟨by simp [Succeeded, result?, hphase], by simp [Succeeded, result?], ?_⟩)
    rintro access rfl hrequest
    exact Access.after_eq_before_of_load (Option.some.inj hrequest).symm
  | load hphase hload =>
    refine .inr (.inl ⟨by simp [Succeeded, result?, hphase], by simp [Succeeded, result?], ?_⟩)
    rintro access rfl hrequest
    exact Access.after_eq_before_of_load (Option.some.inj hrequest).symm
  | giveUp hphase hcancelled =>
    exact .inr (.inl ⟨by simp [Succeeded, result?, hphase], by simp [Succeeded, result?], hquiet⟩)
  | probe hphase hcancelled =>
    exact .inr (.inl ⟨by simp [Succeeded, result?, hphase], by simp [Succeeded, result?], hquiet⟩)
  | afterAgent hphase hnext =>
    refine .inr (.inl ⟨by simp [Succeeded, result?, hphase], ?_, hquiet⟩)
    rcases hnext with ⟨llmId, -, rfl⟩ | ⟨discovery, -, -, rfl⟩ | ⟨discovery, -, -, rfl⟩ <;>
      simp [Succeeded, result?]
  | afterLlm hphase hnext =>
    refine .inr (.inl ⟨by simp [Succeeded, result?, hphase], ?_, hquiet⟩)
    rcases hnext with ⟨-, rfl⟩ | ⟨-, rfl⟩ <;> simp [Succeeded, result?]
  | fail hphase hreply =>
    exact .inr (.inl ⟨by simp [Succeeded, result?, hphase], by simp [Succeeded, result?], hquiet⟩)
  | acknowledge hphase =>
    exact .inr (.inl ⟨by simp [Succeeded, result?, hphase], by simp [Succeeded, result?], hquiet⟩)
  | @mark job discovery patch flow changed hphase hcommit =>
    exact .inr (.inr ⟨by simp [Succeeded, result?, hphase], ⟨_, rfl⟩, rfl, job, discovery, patch,
      flow, changed, hphase, rfl, hcommit⟩)
  | conflict hphase hcommit =>
    refine .inr (.inl ⟨by simp [Succeeded, result?, hphase], by simp [Succeeded, result?], ?_⟩)
    rintro access rfl hrequest
    exact Access.after_eq_before_of_commit (Option.some.inj hrequest).symm hcommit

/-- What the history of the store holds of a deploy: it marked its flow once if it succeeded, and
otherwise it changed nothing. -/
structure Logged (deploy : Deploy) (log : List Access) (place : Nat) : Prop where
  marked : deploy.Succeeded → MarkedOnceBy place deploy.flowId log
  kept : ¬ deploy.Succeeded → KeptBy place log

theorem Logged.append {deploy : Deploy} {log back : List Access} {place : Nat}
    (h : deploy.Logged log place) (hback : KeptBy place back) :
    deploy.Logged (log ++ back) place where
  marked := fun hsucceeded => (h.marked hsucceeded).append hback
  kept := fun hsucceeded => (h.kept hsucceeded).append hback

theorem Logged.quiet {deploy next : Deploy} {log : List Access} {place : Nat}
    {cancelled : Bool} {store : Store} (h : deploy.Logged log place)
    (hturn : deploy.Turn cancelled store none next) : next.Logged log place := by
  rcases hturn.store_cases with ⟨-, rfl⟩ | ⟨hbefore, hafter, -⟩ |
    ⟨-, -, -, job, discovery, patch, flow, changed, -, hrequest, -⟩
  · exact h
  · exact ⟨fun hsucceeded => absurd hsucceeded hafter, fun _ => h.kept hbefore⟩
  · cases hrequest

/-- A deploy that marks its flow had not changed the store before. -/
theorem Logged.call {deploy next : Deploy} {log : List Access} {place : Nat}
    {cancelled : Bool} {access : Access} (hgrounded : deploy.Grounded access.before)
    (h : deploy.Logged log place)
    (hturn : deploy.Turn cancelled access.before (some access.request) next)
    (hcaller : access.caller = some place) : next.Logged (log ++ [access]) place := by
  rcases hturn.store_cases with ⟨hrequest, -⟩ | ⟨hbefore, hafter, hkept⟩ |
    ⟨hbefore, hafter, hid, job, discovery, patch, marked, changed, hphase, hrequest, hcommit⟩
  · cases hrequest
  · refine ⟨fun hsucceeded => absurd hsucceeded hafter, fun _ => (h.kept hbefore).append ?_⟩
    exact keptBy_singleton fun _ => hkept access rfl rfl
  · refine ⟨fun _ => ?_, fun hfailed => absurd hafter hfailed⟩
    obtain ⟨-, hflowId, -⟩ := hgrounded.of_acknowledged hphase
    have hchanged := Access.after_of_commit (Option.some.inj hrequest) hcommit
    obtain ⟨flow, hflow, -, rfl, rfl⟩ := Store.commit_eq_ok hcommit
    rw [hflowId] at hflow
    refine ⟨log, access, [], by simp, hcaller, h.kept hbefore, nofun, flow, ?_, ?_, hchanged⟩
    · rwa [hid]
    · rw [hid]
      exact access.before.id_of_get? hflow

end Deploy

/-- Throughout every run the history of the store holds of a deploy what its phase tells. -/
theorem Scene.logged_run (store : Store) (moves : List Move) {place : Nat} {deploy : Deploy}
    (hdeploy : ((start store).run moves).deploys[place]? = some deploy) :
    deploy.Logged ((start store).run moves).log place := by
  refine (deploy_induction (P := fun log store place deploy =>
    deploy.Grounded store ∧ deploy.Logged log place) ?_ ?_ ?_ ?_ store moves hdeploy).2
  · intro log store place deployer client flowId signal hnone
    refine ⟨.new store deployer client flowId signal, ?_, fun _ => ?_⟩
    · rintro ⟨outcome, houtcome⟩
      cases houtcome
    · intro access haccess hcaller
      exact absurd hcaller (hnone access haccess)
  · intro log place deploy access h hcaller
    exact ⟨h.1.after, h.2.append (keptBy_singleton fun hplace => absurd hplace hcaller)⟩
  · intro log store place deploy next cancelled h hturn
    exact ⟨h.1.turn hturn, h.2.quiet hturn⟩
  · intro log place deploy next cancelled access h hturn hcaller
    exact ⟨(h.1.turn hturn).after, h.2.call h.1 hturn hcaller⟩

/-! ## The five ways -/

/-- The ways in which a deploy ends. -/
inductive Fate where
  /-- The flow is deployed and marked. -/
  | committed
  /-- The flow is missing, invalid or not linked. -/
  | rejected
  /-- The signal was raised in time. -/
  | cancelled
  /-- The write failed, or its time limit passed. -/
  | notPushed
  /-- The write is done, and the flow had been marked by somebody else. -/
  | conflicted
  deriving DecidableEq

namespace Fate

/-- What a fate says of a deploy: its result, the calls to the directory that it began, the reply to
its write, and what it did to the store. -/
def Describes (fate : Fate) (place : Nat) (log : List Access) (deploy : Deploy)
    (result : Except Failure Outcome) : Prop :=
  match fate with
  | .committed =>
    (∃ outcome, result = .ok outcome) ∧
      (∃ target patch, deploy.writes = [.write target patch]) ∧
      deploy.writeReply = some (.answered ()) ∧ MarkedOnceBy place deploy.flowId log
  | .rejected =>
    (∃ failure, result = .error failure ∧ failure.isRejection = true) ∧
      deploy.calls = [] ∧ KeptBy place log
  | .cancelled => result = .error .cancelled ∧ deploy.writes = [] ∧ KeptBy place log
  | .notPushed =>
    (∃ detail, result = .error (.remotePushFailed detail)) ∧
      (∃ target patch, deploy.writes = [.write target patch]) ∧
      (∃ reply, deploy.writeReply = some reply ∧ reply ≠ .answered ()) ∧ KeptBy place log
  | .conflicted =>
    (∃ expected found, result = .error (.persistenceConflict deploy.flowId expected found)) ∧
      (∃ target patch, deploy.writes = [.write target patch]) ∧
      deploy.writeReply = some (.answered ()) ∧ KeptBy place log

/-- The fate that a result belongs to, if it belongs to one. -/
def ofResult? : Except Failure Outcome → Option Fate
  | .ok _ => some .committed
  | .error (.flowNotFound _) | .error (.invalidFlow _) | .error (.agentNotLinked _) =>
    some .rejected
  | .error .cancelled => some .cancelled
  | .error (.remotePushFailed _) => some .notPushed
  | .error (.persistenceConflict _ _ _) => some .conflicted
  | .error _ => none

/-- A fate is told by the result alone, so no two fates describe one deploy. -/
theorem Describes.ofResult? {fate : Fate} {place : Nat} {log : List Access} {deploy : Deploy}
    {result : Except Failure Outcome} (h : fate.Describes place log deploy result) :
    Fate.ofResult? result = some fate := by
  cases fate with
  | committed =>
    obtain ⟨⟨outcome, rfl⟩, -⟩ := h
    rfl
  | rejected =>
    obtain ⟨⟨failure, rfl, hfailure⟩, -⟩ := h
    cases failure <;> first | rfl | cases hfailure
  | cancelled =>
    obtain ⟨rfl, -⟩ := h
    rfl
  | notPushed =>
    obtain ⟨⟨detail, rfl⟩, -⟩ := h
    rfl
  | conflicted =>
    obtain ⟨⟨expected, found, rfl⟩, -⟩ := h
    rfl

/-- A settled deploy has a fate. -/
theorem exists_describes {place : Nat} {log : List Access} {deploy : Deploy}
    {result : Except Failure Outcome} (hresult : deploy.result? = some result)
    (hsettled : deploy.Settled result) (hlogged : deploy.Logged log place) :
    ∃ fate : Fate, fate.Describes place log deploy result := by
  cases result with
  | ok outcome =>
    exact ⟨.committed, ⟨outcome, rfl⟩, hsettled.1.wrote, hsettled.2,
      hlogged.marked ⟨outcome, hresult⟩⟩
  | error failure =>
    have hkept : KeptBy place log := by
      refine hlogged.kept ?_
      rintro ⟨outcome, houtcome⟩
      rw [hresult] at houtcome
      cases houtcome
    cases failure with
    | flowNotFound flowId => exact ⟨.rejected, ⟨_, rfl, rfl⟩, hsettled, hkept⟩
    | agentNotLinked flowId => exact ⟨.rejected, ⟨_, rfl, rfl⟩, hsettled, hkept⟩
    | invalidFlow detail => exact ⟨.rejected, ⟨_, rfl, rfl⟩, hsettled, hkept⟩
    | cancelled => exact ⟨.cancelled, rfl, hsettled, hkept⟩
    | remotePushFailed detail =>
      obtain ⟨⟨script, hwrote⟩, hreply⟩ := hsettled
      exact ⟨.notPushed, ⟨detail, rfl⟩, hwrote.wrote, hreply, hkept⟩
    | persistenceConflict flowId expected found =>
      obtain ⟨⟨⟨script, hwrote⟩, hreply⟩, rfl, -⟩ := hsettled
      exact ⟨.conflicted, ⟨expected, found, rfl⟩, hwrote.wrote, hreply, hkept⟩
    | remoteDiscovery detail => exact hsettled.elim
    | config detail => exact hsettled.elim
    | serialization detail => exact hsettled.elim
    | other detail => exact hsettled.elim

end Fate

namespace Scene

/-- Every finished deploy of every run has one of the five fates and no other, where the history of
the store accounts for all its changes; and trying again may help just when the write is done and
the flow is not marked. -/
theorem existsUnique_fate (store : Store) (moves : List Move) {place : Nat} {deploy : Deploy}
    {result : Except Failure Outcome}
    (hdeploy : ((start store).run moves).deploys[place]? = some deploy)
    (hresult : deploy.result? = some result) :
    Linked store ((start store).run moves).log ((start store).run moves).store ∧
      (∃! fate : Fate, fate.Describes place ((start store).run moves).log deploy result) ∧
      ∀ failure, result = .error failure →
        (failure.isRetryable = true ↔
          Fate.conflicted.Describes place ((start store).run moves).log deploy result) := by
  obtain ⟨fate, hfate⟩ := Fate.exists_describes hresult (settled_run store moves hdeploy hresult)
    (logged_run store moves hdeploy)
  refine ⟨linked_run store moves, ⟨fate, hfate, ?_⟩, ?_⟩
  · intro other hother
    exact Option.some.inj (hother.ofResult?.symm.trans hfate.ofResult?)
  · rintro failure rfl
    constructor
    · intro hretryable
      have hfates := hfate.ofResult?
      cases failure with
      | persistenceConflict flowId expected found =>
        cases hfates
        exact hfate
      | _ => cases hretryable
    · rintro ⟨⟨expected, found, hconflict⟩, -⟩
      cases hconflict
      rfl

/-- The second of two rivals finds the flow marked: its fate is a conflict. -/
theorem existsUnique_fate_of_rival :
    ∃ deploy, ((start rivalStore).run rivalMoves).deploys[1]? = some deploy ∧
      deploy.result? = some (.error (.persistenceConflict "f" 0 1)) ∧
      ∃! fate : Fate, fate.Describes 1 ((start rivalStore).run rivalMoves).log deploy
        (.error (.persistenceConflict "f" 0 1)) :=
  ⟨_, rfl, rfl, (existsUnique_fate rivalStore rivalMoves rfl rfl).2.1⟩

end Scene

end CallFlow
