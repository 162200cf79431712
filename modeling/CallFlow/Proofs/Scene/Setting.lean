import CallFlow.Proofs.Scene.Run

/-!
# Deploys and a directory

A setting is a scene together with the directory that its deploys call.  The moves of a scene leave
open where the replies come from; here a directory gives them.  It may be any directory: it has any
states, does anything when a call begins, when it ends and in between, and what it does may depend
on chances that are part of the events.

Every run of a setting is a run of its scene, so what holds of all runs of scenes holds here too.
-/

namespace CallFlow

/-- How a directory with states of type `σ` behaves, given chances of type `ι`: when a call begins,
when it ends, and otherwise. -/
structure Behaviour (ι σ : Type) where
  begin : ι → Call → σ → σ
  finish : ι → (call : Call) → σ → Reply call.Value × σ
  drift : ι → σ → σ

/-- What happens in a setting. -/
inductive Event (ι : Type) where
  | call (deployer : Deployer) (client : Client) (flowId : String) (signal : Option String)
  /-- The deploy at a place goes on.  If it waits for a call, the call ends. -/
  | resume (place : Nat) (chance : ι)
  | ask (request : Store.Request)
  | raise (signal : String)
  | drift (chance : ι)

namespace Event

variable {ι : Type}

def raises (signal : String) : Event ι → Bool
  | .raise other => other == signal
  | _ => false

def resumes (place : Nat) : Event ι → Bool
  | .resume other _ => other == place
  | _ => false

theorem raises_iff {signal : String} {event : Event ι} :
    event.raises signal = true ↔ event = .raise signal := by
  cases event <;> simp [raises]

end Event

structure Setting (σ : Type) where
  scene : Scene
  remote : σ

/-- The call that a deploy waits for. -/
def Deploy.awaited? (deploy : Deploy) : Option Call :=
  match deploy.phase with
  | .running activity => activity.call?
  | _ => none

def Input.ofReply : (call : Call) → Reply call.Value → Input
  | .fetchAgent _, reply => .agent reply
  | .fetchLlm _, reply => .llm reply
  | .write _ _, reply => .write reply

namespace Behaviour

variable {ι σ : Type}

/-- What a deploy goes on with, and the directory behind it. -/
def answer (behaviour : Behaviour ι σ) (chance : ι) (deploy : Deploy) (remote : σ) : Input × σ :=
  match deploy.awaited? with
  | some call =>
    let finished := behaviour.finish chance call remote
    (.ofReply call finished.1, finished.2)
  | none => (.proceed, remote)

/-- The directory behind the calls that a deploy has begun by a step. -/
def notice (behaviour : Behaviour ι σ) (chance : ι) (before after : Deploy) (remote : σ) : σ :=
  (after.calls.drop before.calls.length).foldl
    (fun remote call => behaviour.begin chance call remote) remote

end Behaviour

namespace Setting

variable {ι σ : Type}

def start (store : Store) (remote : σ) : Setting σ :=
  ⟨.start store, remote⟩

/-- The setting after a step of the deploy at a place. -/
def resume (behaviour : Behaviour ι σ) (setting : Setting σ) (place : Nat) (chance : ι) :
    Setting σ :=
  match setting.scene.deploys[place]? with
  | some deploy =>
    let answer := behaviour.answer chance deploy setting.remote
    let next := deploy.step (setting.scene.isRaised deploy.signal) setting.scene.store answer.1
    ⟨setting.scene.step (.advance place answer.1), behaviour.notice chance deploy next answer.2⟩
  | none => setting

def step (behaviour : Behaviour ι σ) (setting : Setting σ) : Event ι → Setting σ
  | .call deployer client flowId signal =>
    { setting with scene := setting.scene.step (.call deployer client flowId signal) }
  | .resume place chance => setting.resume behaviour place chance
  | .ask request => { setting with scene := setting.scene.step (.ask request) }
  | .raise signal => { setting with scene := setting.scene.step (.raise signal) }
  | .drift chance => { setting with remote := behaviour.drift chance setting.remote }

def run (behaviour : Behaviour ι σ) (setting : Setting σ) (events : List (Event ι)) : Setting σ :=
  events.foldl (step behaviour) setting

variable {behaviour : Behaviour ι σ} {setting : Setting σ}

@[simp]
theorem run_nil : setting.run behaviour [] = setting :=
  rfl

@[simp]
theorem run_cons (event : Event ι) (events : List (Event ι)) :
    setting.run behaviour (event :: events) = (setting.step behaviour event).run behaviour events :=
  rfl

theorem run_append (front back : List (Event ι)) :
    setting.run behaviour (front ++ back) = (setting.run behaviour front).run behaviour back :=
  List.foldl_append

theorem run_concat (events : List (Event ι)) (event : Event ι) :
    setting.run behaviour (events ++ [event]) =
      (setting.run behaviour events).step behaviour event := by
  rw [run_append, run_cons, run_nil]

/-! ## The scene of a setting -/

/-- An event is a move of the scene, or does not touch it. -/
theorem scene_step_cases (behaviour : Behaviour ι σ) (setting : Setting σ) (event : Event ι) :
    ((setting.step behaviour event).scene = setting.scene ∧ ∀ signal, event ≠ .raise signal) ∨
      ∃ move, (setting.step behaviour event).scene = setting.scene.step move ∧
        ∀ signal, move = .raise signal ↔ event = .raise signal := by
  cases event with
  | call deployer client flowId signal =>
    exact .inr ⟨.call deployer client flowId signal, rfl, by simp⟩
  | resume place chance =>
    simp only [step, resume]
    cases setting.scene.deploys[place]? with
    | none => exact .inl ⟨rfl, by simp⟩
    | some deploy =>
      exact .inr ⟨.advance place (behaviour.answer chance deploy setting.remote).1, rfl, by simp⟩
  | ask request => exact .inr ⟨.ask request, rfl, by simp⟩
  | raise signal => exact .inr ⟨.raise signal, rfl, by simp⟩
  | drift chance => exact .inl ⟨rfl, by simp⟩

/-- The scene of a run is the scene of a run of moves. -/
theorem exists_scene_run_eq (behaviour : Behaviour ι σ) (setting : Setting σ)
    (events : List (Event ι)) :
    ∃ moves, (setting.run behaviour events).scene = setting.scene.run moves := by
  induction events generalizing setting with
  | nil => exact ⟨[], rfl⟩
  | cons event events ih =>
    obtain ⟨moves, hmoves⟩ := ih (setting.step behaviour event)
    rw [run_cons, hmoves]
    rcases scene_step_cases behaviour setting event with ⟨hstep, -⟩ | ⟨move, hstep, -⟩
    · rw [hstep]
      exact ⟨moves, rfl⟩
    · rw [hstep]
      exact ⟨move :: moves, rfl⟩

theorem mem_raised_step {event : Event ι} {signal : String} :
    signal ∈ (setting.step behaviour event).scene.raised ↔
      event = .raise signal ∨ signal ∈ setting.scene.raised := by
  rcases scene_step_cases behaviour setting event with ⟨hstep, hother⟩ | ⟨move, hstep, hmove⟩
  · rw [hstep]
    simp [hother]
  · rw [hstep, Scene.mem_raised_step, hmove]

/-- The signals that are raised are those that were raised at first or by the events. -/
theorem mem_raised_run {events : List (Event ι)} {signal : String} :
    signal ∈ (setting.run behaviour events).scene.raised ↔
      signal ∈ setting.scene.raised ∨ .raise signal ∈ events := by
  induction events generalizing setting with
  | nil => simp
  | cons event events ih =>
    rw [run_cons, ih, mem_raised_step, List.mem_cons]
    tauto

/-- A deploy behind an event was there in front of it, or was called by it, or has taken a step. -/
theorem mem_deploys_step {event : Event ι} {deploy : Deploy}
    (hdeploy : deploy ∈ (setting.step behaviour event).scene.deploys) :
    deploy ∈ setting.scene.deploys ∨
    (∃ deployer client flowId signal, event = .call deployer client flowId signal ∧
      deploy = .new deployer client flowId signal) ∨
    ∃ before ∈ setting.scene.deploys, ∃ input,
      deploy = before.step (setting.scene.isRaised before.signal) setting.scene.store input := by
  cases event with
  | call deployer client flowId signal =>
    rcases List.mem_append.mp hdeploy with hkept | hnew
    · exact .inl hkept
    · exact .inr (.inl ⟨deployer, client, flowId, signal, rfl, List.mem_singleton.mp hnew⟩)
  | resume place chance =>
    simp only [step, resume] at hdeploy
    cases hbefore : setting.scene.deploys[place]? with
    | none =>
      rw [hbefore] at hdeploy
      exact .inl hdeploy
    | some before =>
      simp only [hbefore, Scene.step, Scene.advance_deploys] at hdeploy
      rcases List.mem_or_eq_of_mem_set hdeploy with hkept | hstepped
      · exact .inl hkept
      · exact .inr (.inr ⟨before, List.mem_of_getElem? hbefore, _, hstepped⟩)
  | ask request => exact .inl hdeploy
  | raise signal => exact .inl hdeploy
  | drift chance => exact .inl hdeploy

end Setting

/-! ## The end of a deploy -/

/-- A bound on the steps that a deploy takes from a phase on. -/
def Phase.stepsLeft : Phase → Nat
  | .called => 6
  | .loaded _ => 5
  | .running (.probing _) => 4
  | .running (.reading _ _) => 3
  | .running (.pushing _ _ _) => 2
  | .acknowledged _ _ _ => 1
  | .running (.finished _) => 0

namespace Deploy

theorem Turn.stepsLeft_le {deploy next : Deploy} {cancelled : Bool} {store : Store}
    {request : Option Store.Request} (hturn : deploy.Turn cancelled store request next) :
    next.phase.stepsLeft ≤ deploy.phase.stepsLeft := by
  cases hturn with
  | stay => exact Nat.le_refl _
  | afterAgent hphase hnext =>
    rw [hphase]
    rcases hnext with ⟨llmId, -, rfl⟩ | ⟨discovery, -, -, rfl⟩ | ⟨discovery, -, -, rfl⟩ <;>
      simp [goOn, Phase.stepsLeft]
  | afterLlm hphase hnext =>
    rw [hphase]
    rcases hnext with ⟨-, rfl⟩ | ⟨-, rfl⟩ <;> simp [goOn, Phase.stepsLeft]
  | _ hphase =>
    rw [hphase]
    simp [goOn, Phase.stepsLeft]

theorem stepsLeft_discovered (deployer : Deployer) (job : Job) (discovery : Discovery)
    (cancelled : Bool) :
    (Phase.running (Activity.discovered deployer job discovery cancelled).1).stepsLeft ≤ 2 := by
  cases cancelled <;> simp [Activity.discovered, Deployer.prepare, unlessCancelled, Phase.stepsLeft]

theorem stepsLeft_afterAgent (deployer : Deployer) (job : Job) (reply : Reply AgentRecord)
    (cancelled : Bool) :
    (Phase.running (Activity.afterAgent deployer job reply cancelled).1).stepsLeft ≤ 3 := by
  rw [Activity.afterAgent]
  cases Discovery.afterAgent job.agentId reply with
  | settled discovery =>
    exact Nat.le_succ_of_le (stepsLeft_discovered deployer job discovery cancelled)
  | refersTo llmId => exact Nat.le_refl 3

/-- A deploy that is given what it waits for takes one of the steps that are left. -/
theorem stepsLeft_answer {ι σ : Type} (behaviour : Behaviour ι σ) (chance : ι) (deploy : Deploy)
    (remote : σ) (cancelled : Bool) (store : Store) :
    (deploy.step cancelled store (behaviour.answer chance deploy remote).1).phase.stepsLeft ≤
      deploy.phase.stepsLeft - 1 := by
  -- In every phase the answer is the input that the step of this phase takes.
  cases hphase : deploy.phase with
  | called =>
    simp only [Behaviour.answer, awaited?, hphase, step, load]
    cases Job.load store deploy.client deploy.flowId <;> simp [goOn, Phase.stepsLeft]
  | loaded job =>
    simp only [Behaviour.answer, awaited?, hphase, step, Activity.first_eq]
    cases cancelled <;> simp [goOn, Phase.stepsLeft]
  | acknowledged job discovery patch =>
    simp [Behaviour.answer, awaited?, hphase, step, goOn, Phase.stepsLeft]
  | running activity =>
    cases activity with
    | probing job =>
      simp only [Behaviour.answer, awaited?, Activity.call?, Input.ofReply, hphase, step]
      exact stepsLeft_afterAgent _ _ _ _
    | reading job llmId =>
      simp only [Behaviour.answer, awaited?, Activity.call?, Input.ofReply, hphase, step]
      exact stepsLeft_discovered _ _ _ _
    | pushing job discovery patch =>
      simp only [Behaviour.answer, awaited?, Activity.call?, Input.ofReply, hphase, step,
        afterWrite]
      split <;> simp [goOn, Phase.stepsLeft]
    | finished result => simp [Behaviour.answer, awaited?, Activity.call?, hphase, step,
        Phase.stepsLeft]

theorem exists_result_of_stepsLeft {deploy : Deploy} (h : deploy.phase.stepsLeft = 0) :
    ∃ result, deploy.result? = some result := by
  rw [result?]
  cases hphase : deploy.phase with
  | called => simp [hphase, Phase.stepsLeft] at h
  | loaded job => simp [hphase, Phase.stepsLeft] at h
  | acknowledged job discovery patch => simp [hphase, Phase.stepsLeft] at h
  | running activity =>
    cases activity with
    | finished result => exact ⟨result, rfl⟩
    | _ => simp [hphase, Phase.stepsLeft] at h

end Deploy

namespace Setting

variable {ι σ : Type} {behaviour : Behaviour ι σ} {setting : Setting σ} {place : Nat}
  {deploy : Deploy}

theorem getElem?_step_resume (hdeploy : setting.scene.deploys[place]? = some deploy) (chance : ι) :
    (setting.step behaviour (.resume place chance)).scene.deploys[place]? =
      some (deploy.step (setting.scene.isRaised deploy.signal) setting.scene.store
        (behaviour.answer chance deploy setting.remote).1) := by
  simp only [step, resume, hdeploy]
  exact Scene.getElem?_step_advance hdeploy _

/-- No event adds to the steps that are left to a deploy, and going on takes one of them. -/
theorem exists_stepsLeft_step (hdeploy : setting.scene.deploys[place]? = some deploy)
    (event : Event ι) :
    ∃ next, (setting.step behaviour event).scene.deploys[place]? = some next ∧
      next.phase.stepsLeft ≤ deploy.phase.stepsLeft - if event.resumes place then 1 else 0 := by
  -- Any other event leaves the deploy as it is, or is a step that may leave it as it is.
  by_cases hresumes : event.resumes place = true
  · obtain ⟨chance, rfl⟩ : ∃ chance, event = .resume place chance := by
      cases event <;> simp_all [Event.resumes]
    rw [if_pos hresumes]
    exact ⟨_, getElem?_step_resume hdeploy chance, deploy.stepsLeft_answer ..⟩
  · rw [if_neg hresumes]
    rcases scene_step_cases behaviour setting event with ⟨hstep, -⟩ | ⟨move, hstep, -⟩
    · rw [hstep]
      exact ⟨deploy, hdeploy, Nat.le_refl _⟩
    · rw [hstep]
      rcases Scene.getElem?_step hdeploy move with hkept | ⟨input, hnext⟩
      · exact ⟨deploy, hkept, Nat.le_refl _⟩
      · exact ⟨_, hnext, (deploy.turn_step _ _ input).stepsLeft_le⟩

theorem exists_stepsLeft_run (hdeploy : setting.scene.deploys[place]? = some deploy)
    (events : List (Event ι)) :
    ∃ later, (setting.run behaviour events).scene.deploys[place]? = some later ∧
      later.phase.stepsLeft ≤ deploy.phase.stepsLeft - events.countP (Event.resumes place) := by
  induction events generalizing setting deploy with
  | nil => exact ⟨deploy, hdeploy, Nat.le_refl _⟩
  | cons event events ih =>
    obtain ⟨next, hnext, hstep⟩ := exists_stepsLeft_step hdeploy event
    obtain ⟨later, hlater, hrest⟩ := ih hnext
    refine ⟨later, hlater, ?_⟩
    rw [List.countP_cons]
    omega

/-- A deploy that goes on six times is finished, whatever happens in between. -/
theorem exists_result_run (hdeploy : setting.scene.deploys[place]? = some deploy)
    {events : List (Event ι)} (hresumes : 6 ≤ events.countP (Event.resumes place)) :
    ∃ later result, (setting.run behaviour events).scene.deploys[place]? = some later ∧
      later.result? = some result := by
  obtain ⟨later, hlater, hleft⟩ := exists_stepsLeft_run hdeploy events
  have hbound : deploy.phase.stepsLeft ≤ 6 := by
    unfold Phase.stepsLeft
    split <;> decide
  have hnone : later.phase.stepsLeft = 0 := by omega
  obtain ⟨result, hresult⟩ := Deploy.exists_result_of_stepsLeft hnone
  exact ⟨later, result, hlater, hresult⟩

end Setting

end CallFlow
