import CallFlow.Proofs.Scene.Fate
import CallFlow.Proofs.Scene.Protocol

/-!
# Cancelling a deploy

A deploy looks at its signal twice: in front of its first call, and in front of its write.  So a
signal that is raised before the write begins stops the deploy with nothing written and nothing
marked, even when it is raised while a read is going on; and a signal that is raised later is not
noticed at all, neither by the deploy nor by anybody else.
-/

namespace CallFlow

namespace Deploy

variable {deploy next : Deploy} {cancelled : Bool} {store : Store}
  {request : Option Store.Request}

/-- A step keeps what a deploy was called with. -/
theorem Turn.called_with (hturn : deploy.Turn cancelled store request next) :
    next.client = deploy.client ∧ next.flowId = deploy.flowId ∧ next.signal = deploy.signal := by
  cases hturn <;> exact ⟨rfl, rfl, rfl⟩

theorem signal_step (deploy : Deploy) (cancelled : Bool) (store : Store) (input : Input) :
    (deploy.step cancelled store input).signal = deploy.signal :=
  (deploy.turn_step cancelled store input).called_with.2.2

/-! ## While the signal is raised -/

theorem goOn_writes_of_read {activity : Activity}
    (h : ∀ call, activity.call? = some call → call.isWrite = false) :
    (deploy.goOn activity).writes = deploy.writes := by
  have hnone : activity.call?.toList.filter Call.isWrite = [] := by
    rw [List.filter_eq_nil_iff]
    intro call hcall
    simp [h call (Option.mem_toList.mp hcall)]
  rw [goOn_writes, hnone, List.append_nil]

/-- A deploy whose signal is raised begins no write. -/
theorem Turn.writes_eq (hturn : deploy.Turn true store request next) :
    next.writes = deploy.writes := by
  cases hturn with
  | stay => rfl
  | load hphase hload => rfl
  | acknowledge hphase => rfl
  | probe hphase hcancelled => cases hcancelled
  | afterAgent hphase hnext =>
    rcases hnext with ⟨llmId, -, rfl⟩ | ⟨discovery, -, -, rfl⟩ | ⟨discovery, -, hcancelled, -⟩
    · exact goOn_writes_of_read (by rintro call ⟨⟩; rfl)
    · exact goOn_writes_of_read nofun
    · cases hcancelled
  | afterLlm hphase hnext =>
    rcases hnext with ⟨-, rfl⟩ | ⟨hcancelled, -⟩
    · exact goOn_writes_of_read nofun
    · cases hcancelled
  | _ => exact goOn_writes_of_read nofun

/-- A deploy whose signal is raised before its first call begins no call. -/
theorem Turn.calls_eq_nil (hasked : deploy.Asked) (hcalls : deploy.calls = [])
    (hturn : deploy.Turn true store request next) : next.calls = [] := by
  have hended : ∀ result, (deploy.goOn (.finished result)).calls = [] := by
    intro result
    rw [goOn_calls, hcalls]
    rfl
  cases hturn with
  | stay => exact hcalls
  | load hphase hload => exact hcalls
  | acknowledge hphase => exact hcalls
  | probe hphase hcancelled => cases hcancelled
  | afterAgent hphase hnext =>
    rw [Asked, hphase, hcalls] at hasked
    cases hasked.2
  | afterLlm hphase hnext =>
    rw [Asked, hphase, hcalls] at hasked
    cases hasked.2.2
  | _ => exact hended _

theorem result?_goOn (deploy : Deploy) (activity : Activity) :
    (deploy.goOn activity).result? =
      match activity with
      | .finished result => some result
      | _ => none := by
  cases activity <;> rfl

/-- A deploy gives up only while its signal is raised. -/
theorem Turn.cancelled_of_result (hgrounded : deploy.Grounded store)
    (hturn : deploy.Turn cancelled store request next)
    (hresult : next.result? = some (.error .cancelled)) :
    deploy.result? = some (.error .cancelled) ∨ cancelled = true := by
  cases hturn with
  | stay => exact .inl hresult
  | refuse hphase hload =>
    have hrejection := Job.load_eq_error hload
    rw [result?_goOn] at hresult
    cases hresult
    cases hrejection
  | load hphase hload => cases hresult
  | giveUp hphase hcancelled => exact .inr hcancelled
  | probe hphase hcancelled => cases hresult
  | afterAgent hphase hnext =>
    rcases hnext with ⟨llmId, -, rfl⟩ | ⟨discovery, -, hcancelled, rfl⟩ | ⟨discovery, -, -, rfl⟩
    · cases hresult
    · exact .inr hcancelled
    · cases hresult
  | afterLlm hphase hnext =>
    rcases hnext with ⟨hcancelled, rfl⟩ | ⟨-, rfl⟩
    · exact .inr hcancelled
    · cases hresult
  | fail hphase hreply => cases hresult
  | acknowledge hphase => cases hresult
  | mark hphase hcommit => cases hresult
  | conflict hphase hcommit =>
    obtain ⟨found, rfl⟩ := hgrounded.failure_of_commit hphase hcommit
    cases hresult

/-! ## What the load has shown -/

/-- The load of a deploy is in the history, and the deploy was turned away there just when the
flow was not fit for a deploy. -/
def Judged (deploy : Deploy) (log : List Access) (place : Nat) : Prop :=
  deploy.phase = .called ∨
    ∃ access ∈ log, access.caller = some place ∧
      access.request = .load deploy.client.id deploy.flowId ∧
      ((access.before.Deployable deploy.client.id deploy.flowId ∧
          ∀ failure, deploy.result? = some (.error failure) → failure.isRejection = false) ∨
        ∃ failure, access.before.Rejects deploy.client.id deploy.flowId failure ∧
          deploy.result? = some (.error failure))

theorem Judged.append {log : List Access} {place : Nat} (h : deploy.Judged log place)
    (back : List Access) : deploy.Judged (log ++ back) place := by
  rcases h with hcalled | ⟨load, hload, hrest⟩
  · exact .inl hcalled
  · exact .inr ⟨load, List.mem_append_left _ hload, hrest⟩

/-- A step of a deploy and what it says of the flow: nothing happens, the flow is loaded or
rejected, or the deploy is past that and is not rejected any more. -/
theorem Turn.judgement_cases (hgrounded : deploy.Grounded store)
    (hturn : deploy.Turn cancelled store request next) :
    (request = none ∧ next = deploy) ∨
    (request = some (.load deploy.client.id deploy.flowId) ∧
      ((store.Deployable deploy.client.id deploy.flowId ∧ next.result? = none) ∨
        ∃ failure, store.Rejects deploy.client.id deploy.flowId failure ∧
          next.result? = some (.error failure))) ∨
    (deploy.phase ≠ .called ∧ deploy.result? = none ∧
      ∀ failure, next.result? = some (.error failure) → failure.isRejection = false) := by
  cases hturn with
  | stay => exact .inl ⟨rfl, rfl⟩
  | refuse hphase hload =>
    exact .inr (.inl ⟨rfl, .inr ⟨_, Job.rejects_of_load hload, rfl⟩⟩)
  | load hphase hload =>
    obtain ⟨hflow, howner, hvalid, hlinked, -⟩ := Job.load_eq_ok hload
    exact .inr (.inl ⟨rfl, .inl ⟨⟨_, hflow, howner, hvalid, by rw [hlinked]; rfl⟩, rfl⟩⟩)
  | conflict hphase hcommit =>
    obtain ⟨found, rfl⟩ := hgrounded.failure_of_commit hphase hcommit
    refine .inr (.inr ⟨by simp [hphase], by simp [result?, hphase], ?_⟩)
    rintro failure ⟨⟩
    rfl
  | afterAgent hphase hnext =>
    refine .inr (.inr ⟨by simp [hphase], by simp [result?, hphase], ?_⟩)
    intro failure hresult
    rcases hnext with ⟨llmId, -, rfl⟩ | ⟨discovery, -, -, rfl⟩ | ⟨discovery, -, -, rfl⟩ <;>
      cases hresult
    rfl
  | afterLlm hphase hnext =>
    refine .inr (.inr ⟨by simp [hphase], by simp [result?, hphase], ?_⟩)
    intro failure hresult
    rcases hnext with ⟨-, rfl⟩ | ⟨-, rfl⟩ <;> cases hresult
    rfl
  | _ hphase =>
    refine .inr (.inr ⟨by simp [hphase], by simp [result?, hphase], ?_⟩)
    intro failure hresult
    cases hresult
    try rfl

/-- A step keeps what the load has shown. -/
theorem Judged.turn {log back : List Access} {place : Nat} (hgrounded : deploy.Grounded store)
    (h : deploy.Judged log place) (hturn : deploy.Turn cancelled store request next)
    (hback : ∀ made, request = some made → ⟨some place, made, store⟩ ∈ back) :
    next.Judged (log ++ back) place := by
  obtain ⟨hclient, hflowId, -⟩ := hturn.called_with
  rcases hturn.judgement_cases hgrounded with
    ⟨-, rfl⟩ | ⟨hrequest, hjudged⟩ | ⟨hcalled, hopen, hnext⟩
  · exact h.append back
  · rw [← hclient, ← hflowId] at hrequest hjudged
    refine .inr ⟨_, List.mem_append_right _ (hback _ hrequest), rfl, rfl, ?_⟩
    rcases hjudged with ⟨hfit, hopen⟩ | hrejected
    · refine .inl ⟨hfit, ?_⟩
      intro failure hresult
      rw [hopen] at hresult
      cases hresult
    · exact .inr hrejected
  · rcases h with hphase | ⟨load, hmem, hcaller, hrequest, ⟨hfit, -⟩ | ⟨failure, -, hended⟩⟩
    · exact absurd hphase hcalled
    · rw [← hclient, ← hflowId] at hrequest hfit
      exact .inr ⟨load, List.mem_append_left _ hmem, hcaller, hrequest, .inl ⟨hfit, hnext⟩⟩
    · rw [hopen] at hended
      cases hended

/-- What a load of a flow makes of a deploy that is cancelled in time: it is cancelled if the flow
was fit for a deploy, and otherwise rejected for what the flow lacked. -/
inductive CutShort (deploy : Deploy) (loaded : Store) : Except Failure Outcome → Prop
  | cancelled (hfit : loaded.Deployable deploy.client.id deploy.flowId) :
      CutShort deploy loaded (.error .cancelled)
  | rejected {failure : Failure}
      (hrejected : loaded.Rejects deploy.client.id deploy.flowId failure) :
      CutShort deploy loaded (.error failure)

/-- A deploy that ends without a write was cut short. -/
theorem Judged.cutShort {log : List Access} {place : Nat} {result : Except Failure Outcome}
    (h : deploy.Judged log place) (hresult : deploy.result? = some result)
    (hsettled : deploy.Settled result) (hwrites : deploy.writes = []) :
    ∃ access ∈ log, access.caller = some place ∧
      access.request = .load deploy.client.id deploy.flowId ∧
      deploy.CutShort access.before result := by
  have hnone : ∀ script, ¬ deploy.WroteScript script := by
    intro script hwrote
    obtain ⟨target, patch, hwrite⟩ := hwrote.wrote
    rw [hwrites] at hwrite
    cases hwrite
  rcases h with hphase | ⟨load, hmem, hcaller, hrequest, ⟨hfit, hnot⟩ | ⟨failure, hwhy, hended⟩⟩
  · rw [result?, hphase] at hresult
    cases hresult
  · refine ⟨load, hmem, hcaller, hrequest, ?_⟩
    cases result with
    | ok outcome => exact absurd hsettled.1 (hnone _)
    | error failure =>
      have hopen := hnot failure hresult
      cases failure with
      | cancelled => exact .cancelled hfit
      | remotePushFailed detail => exact absurd hsettled.1.choose_spec (hnone _)
      | persistenceConflict flowId expected found =>
        exact absurd hsettled.1.1.choose_spec (hnone _)
      | flowNotFound flowId => cases hopen
      | invalidFlow detail => cases hopen
      | agentNotLinked flowId => cases hopen
      | _ => exact hsettled.elim
  · rw [hresult] at hended
    obtain rfl := Option.some.inj hended
    exact ⟨load, hmem, hcaller, hrequest, .rejected hwhy⟩

/-! ## Past the write -/

/-- A deploy has begun its write, or is finished. -/
def Past (deploy : Deploy) : Prop :=
  deploy.writes ≠ [] ∨ deploy.result?.isSome

theorem step_of_result? {result : Except Failure Outcome} (h : deploy.result? = some result)
    (cancelled : Bool) (store : Store) (input : Input) :
    deploy.step cancelled store input = deploy := by
  rw [result?] at h
  split at h
  · next ended hphase => cases input <;> simp [step, hphase]
  · cases h

theorem Past.step (h : deploy.Past) (cancelled : Bool) (store : Store) (input : Input) :
    (deploy.step cancelled store input).Past := by
  rcases h with hwrites | hfinished
  · have hprefix := (deploy.calls_prefix_step cancelled store input).filter Call.isWrite
    refine .inl ?_
    intro hnone
    rw [writes] at hnone
    rw [hnone] at hprefix
    exact hwrites (List.prefix_nil.mp hprefix)
  · obtain ⟨result, hresult⟩ := Option.isSome_iff_exists.mp hfinished
    rw [step_of_result? hresult]
    exact .inr hfinished

theorem not_past (hwrites : deploy.writes = []) (hopen : deploy.result? = none) :
    ¬ deploy.Past := by
  rintro (hwrote | hfinished)
  · exact hwrote hwrites
  · rw [hopen] at hfinished
    cases hfinished

/-- A deploy that is past its write takes no notice of its signal. -/
theorem Past.step_eq (h : deploy.Past) (haccounted : deploy.Accounted) (cancelled other : Bool)
    (store : Store) (input : Input) :
    deploy.step cancelled store input = deploy.step other store input := by
  rw [Accounted] at haccounted
  cases hphase : deploy.phase with
  | called =>
    rw [hphase] at haccounted
    exact absurd h (not_past (writes_eq_nil haccounted) (by simp [result?, hphase]))
  | loaded job =>
    rw [hphase] at haccounted
    exact absurd h (not_past (writes_eq_nil haccounted) (by simp [result?, hphase]))
  | acknowledged job discovery patch => cases input <;> simp [Deploy.step, hphase]
  | running activity =>
    cases activity with
    | probing job =>
      rw [hphase] at haccounted
      exact absurd h (not_past haccounted (by simp [result?, hphase]))
    | reading job llmId =>
      rw [hphase] at haccounted
      exact absurd h (not_past haccounted (by simp [result?, hphase]))
    | _ => cases input <;> simp [Deploy.step, hphase]

end Deploy

namespace Scene

/-- What a deploy has when it is called, and keeps by its steps while its signal is raised, it has
ever after the signal was raised, if it had it then. -/
theorem raised_induction {P : Deploy → Prop}
    (hnew : ∀ deployer client flowId signal, P (.new deployer client flowId signal))
    (hturn : ∀ {deploy next : Deploy} {store request},
      P deploy → deploy.Turn true store request next → P next)
    {scene : Scene} {signal : String} (hraised : signal ∈ scene.raised) {place : Nat}
    (hfirst : ∀ deploy, scene.deploys[place]? = some deploy → P deploy) (moves : List Move)
    {deploy : Deploy} (hdeploy : (scene.run moves).deploys[place]? = some deploy)
    (hsignal : deploy.signal = some signal) : P deploy := by
  induction moves using List.reverseRecOn generalizing deploy with
  | nil => exact hfirst deploy hdeploy
  | append_singleton moves move ih =>
    rw [run_append, run_cons, run_nil] at hdeploy
    rcases getElem?_step_cases hdeploy with
      hbefore | ⟨deployer, client, flowId, other, rfl⟩ | ⟨before, input, -, hbefore, rfl⟩
    · exact ih hbefore hsignal
    · exact hnew deployer client flowId other
    · have hstep := before.turn_step ((scene.run moves).isRaised before.signal)
        (scene.run moves).store input
      have hsame : before.signal = some signal := hstep.called_with.2.2.symm.trans hsignal
      -- No signal is taken back, so the step sees it raised.
      have hcancelled : (scene.run moves).isRaised before.signal = true :=
        isRaised_iff.mpr ⟨signal, mem_raised_run hraised moves, hsame⟩
      rw [hcancelled] at hstep ⊢
      exact hturn (ih hbefore hsame) hstep

theorem judged_run (store : Store) (moves : List Move) {place : Nat} {deploy : Deploy}
    (hdeploy : ((start store).run moves).deploys[place]? = some deploy) :
    deploy.Judged ((start store).run moves).log place := by
  refine (deploy_induction (P := fun log store place deploy =>
    deploy.Grounded store ∧ deploy.Judged log place) ?_ ?_ ?_ ?_ store moves hdeploy).2
  · intro log store place deployer client flowId signal _
    exact ⟨.new store deployer client flowId signal, .inl rfl⟩
  · intro log place deploy access h _
    exact ⟨h.1.after, h.2.append [access]⟩
  · intro log store place deploy next cancelled h hturn
    have hjudged : next.Judged (log ++ []) place := h.2.turn h.1 hturn nofun
    rw [List.append_nil] at hjudged
    exact ⟨h.1.turn hturn, hjudged⟩
  · intro log place deploy next cancelled access h hturn hcaller
    refine ⟨(h.1.turn hturn).after, h.2.turn h.1 hturn ?_⟩
    rintro made ⟨⟩
    rw [← hcaller]
    exact List.mem_singleton_self access

theorem isRaised_step {scene : Scene} {signal : Option String}
    (h : scene.isRaised signal = true) (move : Move) :
    (scene.step move).isRaised signal = true := by
  obtain ⟨raised, hraised, hsignal⟩ := isRaised_iff.mp h
  exact isRaised_iff.mpr ⟨raised, mem_raised_step.mpr (.inr hraised), hsignal⟩

/-- A deploy is cancelled only if its signal was raised. -/
theorem isRaised_of_cancelled (store : Store) (moves : List Move) {place : Nat} {deploy : Deploy}
    (hdeploy : ((start store).run moves).deploys[place]? = some deploy)
    (hresult : deploy.result? = some (.error .cancelled)) :
    ((start store).run moves).isRaised deploy.signal = true := by
  induction moves using List.reverseRecOn generalizing deploy with
  | nil => simp [start] at hdeploy
  | append_singleton moves move ih =>
    rw [run_append, run_cons, run_nil] at hdeploy ⊢
    apply isRaised_step
    rcases getElem?_step_cases hdeploy with
      hbefore | ⟨deployer, client, flowId, other, rfl⟩ | ⟨before, input, -, hbefore, rfl⟩
    · exact ih hbefore hresult
    · cases hresult
    · have hstep := before.turn_step (((start store).run moves).isRaised before.signal)
        ((start store).run moves).store input
      have hgrounded := (accounted_run store moves hbefore).1
      rw [hstep.called_with.2.2]
      rcases hstep.cancelled_of_result hgrounded hresult with hearlier | hraised
      · exact ih hbefore hearlier
      · exact hraised

end Scene

end CallFlow
