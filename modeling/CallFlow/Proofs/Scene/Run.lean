import Mathlib.Data.List.Induction
import CallFlow.Proofs.Scene.Basic

/-!
# Runs of a scene

Facts about whole runs that do not depend on what a deploy is asked about.  `deploy_induction` is
the one induction over runs that the statements about single deploys use: a property of a deploy, of
the history of the store and of the store itself holds throughout every run if a new deploy has it,
if it survives the calls of others, and if the deploy's own steps keep it.

`run_begin` and `run_write` say that a deploy whose calls to the store are not interrupted takes the
steps of `Activity.start` and of `Deployer.conclude`.
-/

namespace CallFlow.Scene

/-! ## One move -/

/-- The scene after one move: the store and its history change together, and of the deploys at most
one changes or is new. -/
theorem step_cases (scene : Scene) (move : Move) :
    (∃ request, scene.step move = scene.access none request) ∨
    (∃ place deploy input, scene.deploys[place]? = some deploy ∧
      scene.step move = scene.advance place deploy input) ∨
    ((scene.step move).store = scene.store ∧ (scene.step move).log = scene.log ∧
      ((scene.step move).deploys = scene.deploys ∨
        ∃ deployer client flowId signal,
          (scene.step move).deploys =
            scene.deploys ++ [.new deployer client flowId signal])) := by
  cases move with
  | call deployer client flowId signal =>
    exact .inr (.inr ⟨rfl, rfl, .inr ⟨deployer, client, flowId, signal, rfl⟩⟩)
  | advance place input =>
    cases hdeploy : scene.deploys[place]? with
    | none =>
      have hstep : scene.step (.advance place input) = scene := by simp [step, hdeploy]
      exact .inr (.inr ⟨by rw [hstep], by rw [hstep], .inl (by rw [hstep])⟩)
    | some deploy =>
      exact .inr (.inl ⟨place, deploy, input, hdeploy, by simp [step, hdeploy]⟩)
  | ask request => exact .inl ⟨request, rfl⟩
  | raise signal => exact .inr (.inr ⟨rfl, rfl, .inl rfl⟩)

theorem mem_log_access {scene : Scene} {caller : Option Nat} {request : Store.Request}
    {access : Access} :
    access ∈ (scene.access caller request).log ↔
      access ∈ scene.log ∨ access = ⟨caller, request, scene.store⟩ := by
  simp [Scene.access]

theorem advance_deploys (scene : Scene) (place : Nat) (deploy : Deploy) (input : Input) :
    (scene.advance place deploy input).deploys =
      scene.deploys.set place
        (deploy.step (scene.isRaised deploy.signal) scene.store input) := by
  rw [advance]
  cases deploy.request? input <;> rfl

theorem mem_raised_step {scene : Scene} {move : Move} {signal : String} :
    signal ∈ (scene.step move).raised ↔ move = .raise signal ∨ signal ∈ scene.raised := by
  cases move with
  | call deployer client flowId other => simp [step]
  | advance place input =>
    have hraised : (scene.step (.advance place input)).raised = scene.raised := by
      simp only [step]
      split
      · next deploy _ =>
        rw [advance]
        cases deploy.request? input <;> rfl
      · rfl
    simp [hraised]
  | ask request => simp [step, access]
  | raise other => simp [step, eq_comm]

theorem mem_raised_run {scene : Scene} {signal : String} (h : signal ∈ scene.raised)
    (moves : List Move) : signal ∈ (scene.run moves).raised := by
  induction moves generalizing scene with
  | nil => exact h
  | cons move moves ih => exact ih (mem_raised_step.mpr (.inr h))

theorem isRaised_iff {scene : Scene} {signal : Option String} :
    scene.isRaised signal = true ↔ ∃ raised ∈ scene.raised, signal = some raised := by
  cases signal with
  | none => simp [isRaised]
  | some signal => simp [isRaised]

/-- A move calls the store once, or it leaves the store and its history as they were. -/
theorem log_step (scene : Scene) (move : Move) :
    ((scene.step move).log = scene.log ∧ (scene.step move).store = scene.store) ∨
    (∃ access : Access, access.before = scene.store ∧
      (scene.step move).log = scene.log ++ [access] ∧ (scene.step move).store = access.after) := by
  rcases step_cases scene move with
    ⟨request, hstep⟩ | ⟨place, deploy, input, -, hstep⟩ | ⟨hstore, hlog, -⟩
  · rw [hstep]
    exact .inr ⟨⟨none, request, scene.store⟩, rfl, rfl, rfl⟩
  · rw [hstep, advance]
    cases deploy.request? input with
    | none => exact .inl ⟨rfl, rfl⟩
    | some request => exact .inr ⟨⟨some place, request, scene.store⟩, rfl, rfl, rfl⟩
  · exact .inl ⟨hlog, hstore⟩

/-- The history of the store is complete: it accounts for every change of the store. -/
theorem linked_run (store : Store) (moves : List Move) :
    Linked store ((start store).run moves).log ((start store).run moves).store := by
  induction moves using List.reverseRecOn with
  | nil => rfl
  | append_singleton moves move ih =>
    rw [run_append, run_cons, run_nil]
    rcases log_step ((start store).run moves) move with
      ⟨hlog, hstore⟩ | ⟨access, hbefore, hlog, hstore⟩
    · rwa [hlog, hstore]
    · rw [hlog, hstore]
      exact ih.snoc hbefore

/-- The store that a call met is the store of the run up to that call. -/
theorem before_run (store : Store) (moves : List Move) :
    ∀ access ∈ ((start store).run moves).log, ∃ front, front <+: moves ∧
      access.before = ((start store).run front).store := by
  induction moves using List.reverseRecOn with
  | nil => simp [start]
  | append_singleton moves move ih =>
    rw [run_append, run_cons, run_nil]
    have hearlier : ∀ access ∈ ((start store).run moves).log, ∃ front,
        front <+: moves ++ [move] ∧ access.before = ((start store).run front).store := by
      intro access haccess
      obtain ⟨front, hfront, hbefore⟩ := ih access haccess
      exact ⟨front, hfront.trans (List.prefix_append moves [move]), hbefore⟩
    rcases log_step ((start store).run moves) move with
      ⟨hlog, -⟩ | ⟨access, hbefore, hlog, -⟩
    · rwa [hlog]
    · rw [hlog]
      intro other hother
      rcases List.mem_append.mp hother with hother | hother
      · exact hearlier other hother
      · obtain rfl := List.mem_singleton.mp hother
        exact ⟨moves, List.prefix_append moves [move], hbefore⟩

theorem length_log_le (store : Store) (moves : List Move) :
    ((start store).run moves).log.length ≤ moves.length := by
  induction moves using List.reverseRecOn with
  | nil => exact Nat.le_refl 0
  | append_singleton moves move ih =>
    rw [run_append, run_cons, run_nil]
    rcases log_step ((start store).run moves) move with ⟨hlog, -⟩ | ⟨access, -, hlog, -⟩
    · rw [hlog, List.length_append]
      exact Nat.le_add_right_of_le ih
    · rw [hlog, List.length_append, List.length_append]
      exact Nat.add_le_add_right ih 1

/-- Only deploys that were called have a place in the history. -/
theorem lt_of_mem_log (store : Store) (moves : List Move) :
    ∀ access ∈ ((start store).run moves).log, ∀ place, access.caller = some place →
      place < ((start store).run moves).deploys.length := by
  induction moves using List.reverseRecOn with
  | nil => simp [start]
  | append_singleton moves move ih =>
    rw [run_append, run_cons, run_nil]
    rcases step_cases ((start store).run moves) move with
      ⟨request, hstep⟩ | ⟨place, deploy, input, hdeploy, hstep⟩ | ⟨-, hlog, hdeploys⟩
    · intro access haccess place hplace
      rw [hstep] at haccess ⊢
      rcases mem_log_access.mp haccess with haccess | rfl
      · exact ih access haccess place hplace
      · cases hplace
    · intro access haccess other hother
      rw [hstep, advance_deploys, List.length_set]
      rw [hstep, advance] at haccess
      cases hrequest : deploy.request? input with
      | none =>
        rw [hrequest] at haccess
        exact ih access haccess other hother
      | some request =>
        rw [hrequest] at haccess
        rcases mem_log_access.mp haccess with haccess | rfl
        · exact ih access haccess other hother
        · cases hother
          exact (List.getElem?_eq_some_iff.mp hdeploy).1
    · intro access haccess place hplace
      rw [hlog] at haccess
      have hlt := ih access haccess place hplace
      rcases hdeploys with hdeploys | ⟨deployer, client, flowId, signal, hdeploys⟩
      · rwa [hdeploys]
      · rw [hdeploys, List.length_append]
        exact Nat.lt_add_right _ hlt

/-! ## One deploy through a whole run -/

/-- What holds of a deploy when it is called, survives the calls that others make to the store, and
is kept by the deploy's own steps, holds throughout every run. -/
theorem deploy_induction {P : List Access → Store → Nat → Deploy → Prop}
    (hnew : ∀ {log store place} deployer client flowId signal,
      (∀ access ∈ log, access.caller ≠ some place) →
        P log store place (.new deployer client flowId signal))
    (hothers : ∀ {log place deploy} (access : Access),
      P log access.before place deploy → access.caller ≠ some place →
        P (log ++ [access]) access.after place deploy)
    (hquiet : ∀ {log store place} {deploy next : Deploy} {cancelled},
      P log store place deploy → deploy.Turn cancelled store none next →
        P log store place next)
    (hcall : ∀ {log place} {deploy next : Deploy} {cancelled} (access : Access),
      P log access.before place deploy →
        deploy.Turn cancelled access.before (some access.request) next →
        access.caller = some place → P (log ++ [access]) access.after place next)
    (store : Store) (moves : List Move) {place : Nat} {deploy : Deploy}
    (hdeploy : ((start store).run moves).deploys[place]? = some deploy) :
    P ((start store).run moves).log ((start store).run moves).store place deploy := by
  induction moves using List.reverseRecOn generalizing place deploy with
  | nil => simp [start] at hdeploy
  | append_singleton moves move ih =>
    have hcallers := lt_of_mem_log store moves
    rw [run_append, run_cons, run_nil] at hdeploy ⊢
    generalize (start store).run moves = scene at ih hcallers hdeploy ⊢
    rcases step_cases scene move with
      ⟨request, hstep⟩ | ⟨turning, before, input, hbefore, hstep⟩ | ⟨hstore, hlog, hdeploys⟩
    · rw [hstep] at hdeploy ⊢
      exact hothers ⟨none, request, scene.store⟩ (ih hdeploy) (by simp)
    · have hturn := before.turn_step (scene.isRaised before.signal) scene.store input
      rw [hstep] at hdeploy ⊢
      rw [advance_deploys] at hdeploy
      rw [advance]
      by_cases hplace : place = turning
      · -- The deploy takes its own step.
        subst hplace
        have hlt := (List.getElem?_eq_some_iff.mp hbefore).1
        rw [List.getElem?_set_self hlt, Option.some.injEq] at hdeploy
        subst hdeploy
        cases hrequest : before.request? input with
        | none =>
          rw [hrequest] at hturn
          exact hquiet (ih hbefore) hturn
        | some request =>
          rw [hrequest] at hturn
          exact hcall ⟨some place, request, scene.store⟩ (ih hbefore) hturn rfl
      · -- Another deploy takes a step.
        rw [List.getElem?_set_ne (Ne.symm hplace)] at hdeploy
        cases before.request? input with
        | none => exact ih hdeploy
        | some request =>
          refine hothers ⟨some turning, request, scene.store⟩ (ih hdeploy) ?_
          simpa using Ne.symm hplace
    · rw [hstore, hlog]
      rcases hdeploys with hdeploys | ⟨deployer, client, flowId, signal, hdeploys⟩
      · rw [hdeploys] at hdeploy
        exact ih hdeploy
      · rw [hdeploys] at hdeploy
        rcases Nat.lt_trichotomy place scene.deploys.length with hlt | rfl | hgt
        · rw [List.getElem?_append_left hlt] at hdeploy
          exact ih hdeploy
        · -- A new deploy has made no call yet.
          rw [List.getElem?_concat_length, Option.some.injEq] at hdeploy
          subst hdeploy
          refine hnew deployer client flowId signal fun access haccess hcaller => ?_
          exact Nat.lt_irrefl _ (hcallers access haccess _ hcaller)
        · rw [List.getElem?_eq_none (by simp; omega)] at hdeploy
          cases hdeploy

/-- A deploy behind a move was there in front of it, or is new, or has taken a step by the move. -/
theorem getElem?_step_cases {scene : Scene} {move : Move} {place : Nat} {deploy : Deploy}
    (hdeploy : (scene.step move).deploys[place]? = some deploy) :
    scene.deploys[place]? = some deploy ∨
    (∃ deployer client flowId signal, deploy = .new deployer client flowId signal) ∨
    (∃ before input, move = .advance place input ∧ scene.deploys[place]? = some before ∧
      deploy = before.step (scene.isRaised before.signal) scene.store input) := by
  cases move with
  | call deployer client flowId signal =>
    rw [step, List.getElem?_append] at hdeploy
    split at hdeploy
    · exact .inl hdeploy
    · rw [List.getElem?_singleton] at hdeploy
      split at hdeploy
      · exact .inr (.inl ⟨deployer, client, flowId, signal, (Option.some.inj hdeploy).symm⟩)
      · cases hdeploy
  | advance turning input =>
    cases hbefore : scene.deploys[turning]? with
    | none =>
      rw [show scene.step (.advance turning input) = scene by simp [step, hbefore]] at hdeploy
      exact .inl hdeploy
    | some before =>
      simp only [step, hbefore, advance_deploys] at hdeploy
      by_cases hplace : place = turning
      · subst hplace
        rw [List.getElem?_set_self (List.getElem?_eq_some_iff.mp hbefore).1] at hdeploy
        exact .inr (.inr ⟨before, input, rfl, hbefore, (Option.some.inj hdeploy).symm⟩)
      · rw [List.getElem?_set_ne (Ne.symm hplace)] at hdeploy
        exact .inl hdeploy
  | ask request => exact .inl hdeploy
  | raise signal => exact .inl hdeploy

/-- A move leaves a deploy as it is, or it is the deploy's own step. -/
theorem getElem?_step {scene : Scene} {place : Nat} {deploy : Deploy}
    (hdeploy : scene.deploys[place]? = some deploy) (move : Move) :
    (scene.step move).deploys[place]? = some deploy ∨
    (∃ input, (scene.step move).deploys[place]? =
      some (deploy.step (scene.isRaised deploy.signal) scene.store input)) := by
  have hlt := (List.getElem?_eq_some_iff.mp hdeploy).1
  cases move with
  | call deployer client flowId signal =>
    rw [step, List.getElem?_append_left hlt]
    exact .inl hdeploy
  | advance turning input =>
    cases hturning : scene.deploys[turning]? with
    | none =>
      rw [show scene.step (.advance turning input) = scene by simp [step, hturning]]
      exact .inl hdeploy
    | some other =>
      simp only [step, hturning, advance_deploys]
      by_cases hplace : place = turning
      · subst hplace
        obtain rfl := Option.some.inj (hdeploy.symm.trans hturning)
        exact .inr ⟨input, List.getElem?_set_self hlt⟩
      · rw [List.getElem?_set_ne (Ne.symm hplace)]
        exact .inl hdeploy
  | ask request => exact .inl hdeploy
  | raise signal => exact .inl hdeploy

/-- A deploy that is finished stays as it is, whatever happens next. -/
theorem getElem?_run_of_finished {scene : Scene} {place : Nat} {deploy : Deploy}
    {result : Except Failure Outcome} (hdeploy : scene.deploys[place]? = some deploy)
    (hphase : deploy.phase = .running (.finished result)) (moves : List Move) :
    (scene.run moves).deploys[place]? = some deploy := by
  induction moves generalizing scene with
  | nil => exact hdeploy
  | cons move moves ih =>
    refine ih ?_
    rcases getElem?_step hdeploy move with hstep | ⟨input, hstep⟩
    · exact hstep
    · rw [hstep]
      cases input <;> simp [Deploy.step, hphase]

/-- A deploy keeps what it was called with. -/
theorem exists_getElem?_run {scene : Scene} {place : Nat} {deploy : Deploy}
    (hdeploy : scene.deploys[place]? = some deploy) (moves : List Move) :
    ∃ later, (scene.run moves).deploys[place]? = some later ∧ later.client = deploy.client ∧
      later.flowId = deploy.flowId ∧ later.signal = deploy.signal := by
  induction moves generalizing scene deploy with
  | nil => exact ⟨deploy, hdeploy, rfl, rfl, rfl⟩
  | cons move moves ih =>
    rcases getElem?_step hdeploy move with hstep | ⟨input, hstep⟩
    · exact ih hstep
    · obtain ⟨later, hlater, hclient, hflowId, hsignal⟩ := ih hstep
      have hturn := deploy.turn_step (scene.isRaised deploy.signal) scene.store input
      generalize deploy.step (scene.isRaised deploy.signal) scene.store input = next
        at hturn hclient hflowId hsignal
      generalize deploy.request? input = request at hturn
      refine ⟨later, hlater, ?_⟩
      rw [hclient, hflowId, hsignal]
      cases hturn <;> exact ⟨rfl, rfl, rfl⟩

/-! ## Steps that are not interrupted -/

section Uninterrupted

variable {scene : Scene} {place : Nat} {deploy : Deploy}

theorem getElem?_step_advance (hdeploy : scene.deploys[place]? = some deploy) (input : Input) :
    (scene.step (.advance place input)).deploys[place]? =
      some (deploy.step (scene.isRaised deploy.signal) scene.store input) := by
  have hlt := (List.getElem?_eq_some_iff.mp hdeploy).1
  simp only [step, hdeploy]
  rw [advance_deploys, List.getElem?_set_self hlt]

theorem store_step_advance (hdeploy : scene.deploys[place]? = some deploy) (input : Input) :
    (scene.step (.advance place input)).store =
      match deploy.request? input with
      | some request => (scene.store.answer request).2
      | none => scene.store := by
  simp only [step, hdeploy, advance]
  cases deploy.request? input <;> rfl

theorem isRaised_step_advance (input : Input) (signal : Option String) :
    (scene.step (.advance place input)).isRaised signal = scene.isRaised signal := by
  cases hdeploy : scene.deploys[place]? with
  | none => simp [step, hdeploy]
  | some deploy =>
    simp only [step, hdeploy, advance]
    cases deploy.request? input <;> cases signal <;> rfl

/-- A deploy that loads its flow and looks at its signal without an interruption begins as
`Activity.start` says. -/
theorem run_begin (hdeploy : scene.deploys[place]? = some deploy)
    (hphase : deploy.phase = .called) :
    (scene.run [.advance place .proceed, .advance place .proceed]).store = scene.store ∧
      ∃ next,
        (scene.run [.advance place .proceed, .advance place .proceed]).deploys[place]? =
          some next ∧
        next.phase = .running (Activity.start scene.store deploy.client deploy.flowId
          (scene.isRaised deploy.signal)).1 := by
  have hfirst := getElem?_step_advance hdeploy .proceed
  have hkept : (scene.step (.advance place .proceed)).store = scene.store := by
    simp [store_step_advance hdeploy, Deploy.request?, hphase, Store.answer]
  simp only [run_cons, run_nil]
  refine ⟨?_, _, getElem?_step_advance hfirst .proceed, ?_⟩
  · rw [store_step_advance hfirst, hkept]
    cases hload : Job.load scene.store deploy.client deploy.flowId <;>
      simp [Deploy.step, Deploy.request?, Deploy.load, Deploy.goOn, hphase, hload]
  · rw [isRaised_step_advance, Activity.start, Job.accept]
    cases hload : Job.load scene.store deploy.client deploy.flowId with
    | error failure => simp [Deploy.step, Deploy.load, Deploy.goOn, hphase, hload]
    | ok job =>
      cases hraised : scene.isRaised deploy.signal <;>
        simp [Deploy.step, Deploy.load, Deploy.goOn, Activity.first, unlessCancelled, hphase,
          hload, hraised]

/-- A deploy that marks its flow right when its write is acknowledged ends as `Deployer.conclude`
says, with the same store behind it. -/
theorem run_write {job : Job} {discovery : Discovery} {patch : Patch}
    (hdeploy : scene.deploys[place]? = some deploy)
    (hphase : deploy.phase = .running (.pushing job discovery patch)) (reply : Reply Unit) :
    let conclusion := deploy.deployer.conclude job discovery patch reply scene.store
    (scene.run [.advance place (.write reply), .advance place .proceed]).store =
        conclusion.store ∧
      ∃ next,
        (scene.run [.advance place (.write reply), .advance place .proceed]).deploys[place]? =
          some next ∧
        next.phase = .running (.finished conclusion.result) := by
  have hfirst := getElem?_step_advance hdeploy (.write reply)
  have hkept : (scene.step (.advance place (.write reply))).store = scene.store := by
    simp [store_step_advance hdeploy, Deploy.request?]
  simp only [run_cons, run_nil]
  refine ⟨?_, _, getElem?_step_advance hfirst .proceed, ?_⟩
  · rw [store_step_advance hfirst, hkept]
    rcases deploy.deployer.pushFailure?_cases reply with
      ⟨rfl, hnone⟩ | ⟨-, detail, hsome⟩
    · cases hcommit : scene.store.commit job.flow.id job.flow.version <;>
        simp [Deploy.step, Deploy.request?, Deploy.afterWrite, Deployer.conclude, Store.answer,
          Store.settle, hphase, hnone, hcommit]
    · simp [Deploy.step, Deploy.request?, Deploy.afterWrite, Deploy.goOn, Deployer.conclude,
        hphase, hsome]
  · rw [hkept]
    rcases deploy.deployer.pushFailure?_cases reply with
      ⟨rfl, hnone⟩ | ⟨-, detail, hsome⟩
    · simp [Deploy.step, Deploy.afterWrite, Deploy.goOn, hphase, hnone]
    · simp [Deploy.step, Deploy.afterWrite, Deploy.goOn, Deployer.conclude, hphase, hsome]

end Uninterrupted

/-! ## Two deploys of one version -/

/-- A flow with one message that is linked to an agent. -/
def rivalFlow : Flow :=
  ⟨"f", "c", "", [.ofKind "n" (.message none)], [], 0, false, some " a "⟩

def rivalStore : Store :=
  Store.empty.insert rivalFlow

/-- Two deploys load the same version; discovery fails for both, the flow is edited, and both
writes are acknowledged before the first deploy marks the flow. -/
def rivalMoves : List Move :=
  let deployer := Deployer.new "https://portal.example.com/api"
  [.call deployer ⟨"c", []⟩ "f" none, .call deployer ⟨"c", []⟩ "f" (some "s"),
    .advance 0 .proceed, .advance 1 .proceed, .advance 1 .proceed, .advance 0 .proceed,
    .advance 1 (.agent (.failed .cancelled)), .raise "s", .advance 0 (.agent .timedOut),
    .ask (.save "c" "f" [] []), .advance 1 (.write (.answered ())),
    .advance 0 (.write (.answered ())), .advance 0 .proceed, .advance 1 .proceed]

end CallFlow.Scene
