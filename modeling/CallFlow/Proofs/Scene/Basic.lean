import CallFlow.Deploy.Activity
import CallFlow.Proofs.Store

/-!
# Deploys side by side

A scene is a store that deploys and other callers share.  A deploy goes through it in steps: it
loads its flow, looks at its signal, takes the replies of the directory, and marks its flow.
Between any two steps anything else may happen.  Replies are part of a move, so nothing is assumed
of a directory: it may answer with any record, fail in any way, or let the time limit pass.

The steps between two calls to the directory are those of `Activity`; in addition the two calls to
the store are steps of their own.
-/

namespace CallFlow

/-- A deploy between two of its steps, where calls to the store are steps too. -/
inductive Phase where
  /-- It has not loaded its flow. -/
  | called
  /-- Its flow is loaded and checked; the signal is not looked at yet. -/
  | loaded (job : Job)
  /-- It waits for a reply of the directory, or it is finished. -/
  | running (activity : Activity)
  /-- Its write is acknowledged; the flow is not marked yet. -/
  | acknowledged (job : Job) (discovery : Discovery) (patch : Patch)

/-- A deploy in a scene, with what it has done so far. -/
structure Deploy where
  deployer : Deployer
  client : Client
  flowId : String
  /-- The signal that cancels it, if one does. -/
  signal : Option String
  phase : Phase
  /-- The flow that it loaded and found fit to deploy. -/
  flow : Option Flow
  /-- The calls to the directory that it began, oldest first. -/
  calls : List Call
  /-- The replies that it took, each to the call of its kind. -/
  agentReply : Option (Reply AgentRecord)
  llmReply : Option (Reply LlmRecord)
  writeReply : Option (Reply Unit)

/-- What a deploy goes on with. -/
inductive Input where
  /-- Nothing from outside: it calls the store, or looks at its signal. -/
  | proceed
  | agent (reply : Reply AgentRecord)
  | llm (reply : Reply LlmRecord)
  | write (reply : Reply Unit)

/-- The call that an activity waits for. -/
def Activity.call? : Activity → Option Call
  | .probing job => some (.fetchAgent job.agentId)
  | .reading _ llmId => some (.fetchLlm llmId)
  | .pushing _ discovery patch => some (.write discovery.binding patch)
  | .finished _ => none

/-- Looks at the signal in front of the first call. -/
def Activity.first (job : Job) (cancelled : Bool) : Activity :=
  match (unlessCancelled cancelled job []).1 with
  | .ok job => .probing job
  | .error failure => .finished (.error failure)

namespace Deploy

/-- A deploy that was called just now. -/
def new (deployer : Deployer) (client : Client) (flowId : String) (signal : Option String) :
    Deploy :=
  ⟨deployer, client, flowId, signal, .called, none, [], none, none, none⟩

/-- The writes that a deploy began. -/
def writes (deploy : Deploy) : List Call :=
  deploy.calls.filter Call.isWrite

/-- The result of a deploy that is finished. -/
def result? (deploy : Deploy) : Option (Except Failure Outcome) :=
  match deploy.phase with
  | .running (.finished result) => some result
  | _ => none

/-- Goes on to an activity, which begins the call that it waits for. -/
def goOn (deploy : Deploy) (activity : Activity) : Deploy :=
  { deploy with phase := .running activity, calls := deploy.calls ++ activity.call?.toList }

/-- Loads and checks the flow. -/
def load (deploy : Deploy) (store : Store) : Deploy :=
  match Job.load store deploy.client deploy.flowId with
  | .ok job => { deploy with phase := .loaded job, flow := some job.flow }
  | .error failure => deploy.goOn (.finished (.error failure))

/-- Takes the reply to the write. -/
def afterWrite (deploy : Deploy) (job : Job) (discovery : Discovery) (patch : Patch)
    (reply : Reply Unit) : Deploy :=
  match deploy.deployer.pushFailure? reply with
  | some failure => { deploy.goOn (.finished (.error failure)) with writeReply := some reply }
  | none => { deploy with phase := .acknowledged job discovery patch, writeReply := some reply }

/-- The deploy after a step; a step that is not its next one leaves it as it is. -/
def step (deploy : Deploy) (cancelled : Bool) (store : Store) : Input → Deploy
  | .proceed =>
    match deploy.phase with
    | .called => deploy.load store
    | .loaded job => deploy.goOn (.first job cancelled)
    | .acknowledged job discovery patch =>
      deploy.goOn (.finished
        (deploy.deployer.conclude job discovery patch (.answered ()) store).result)
    | .running _ => deploy
  | .agent reply =>
    match deploy.phase with
    | .running (.probing job) =>
      { deploy.goOn (Activity.afterAgent deploy.deployer job reply cancelled).1 with
        agentReply := some reply }
    | _ => deploy
  | .llm reply =>
    match deploy.phase with
    | .running (.reading job llmId) =>
      { deploy.goOn (Activity.afterLlm deploy.deployer job llmId reply cancelled).1 with
        llmReply := some reply }
    | _ => deploy
  | .write reply =>
    match deploy.phase with
    | .running (.pushing job discovery patch) => deploy.afterWrite job discovery patch reply
    | _ => deploy

/-- The call to the store that a step of a deploy makes. -/
def request? (deploy : Deploy) : Input → Option Store.Request
  | .proceed =>
    match deploy.phase with
    | .called => some (.load deploy.client.id deploy.flowId)
    | .acknowledged job _ _ => some (.commit job.flow.id job.flow.version)
    | _ => none
  | _ => none

end Deploy

/-! ## What one step of a deploy can do -/

/-- One step of a deploy: the call to the store that it makes, and the deploy after it.  The deploy
looks at its signal in the steps in front of its first call and in front of its write. -/
inductive Deploy.Turn (deploy : Deploy) (cancelled : Bool) (store : Store) :
    Option Store.Request → Deploy → Prop
  | stay : Turn deploy cancelled store none deploy
  | refuse {failure : Failure} (hphase : deploy.phase = .called)
      (hload : Job.load store deploy.client deploy.flowId = .error failure) :
      Turn deploy cancelled store (some (.load deploy.client.id deploy.flowId))
        (deploy.goOn (.finished (.error failure)))
  | load {job : Job} (hphase : deploy.phase = .called)
      (hload : Job.load store deploy.client deploy.flowId = .ok job) :
      Turn deploy cancelled store (some (.load deploy.client.id deploy.flowId))
        { deploy with phase := .loaded job, flow := some job.flow }
  | giveUp {job : Job} (hphase : deploy.phase = .loaded job) (hcancelled : cancelled = true) :
      Turn deploy cancelled store none (deploy.goOn (.finished (.error .cancelled)))
  | probe {job : Job} (hphase : deploy.phase = .loaded job) (hcancelled : cancelled = false) :
      Turn deploy cancelled store none (deploy.goOn (.probing job))
  | afterAgent {job : Job} {reply : Reply AgentRecord} {activity : Activity}
      (hphase : deploy.phase = .running (.probing job))
      (hnext :
        (∃ llmId, Discovery.afterAgent job.agentId reply = .refersTo llmId ∧
          activity = .reading job llmId) ∨
        (∃ discovery, Discovery.afterAgent job.agentId reply = .settled discovery ∧
          cancelled = true ∧ activity = .finished (.error .cancelled)) ∨
        (∃ discovery, Discovery.afterAgent job.agentId reply = .settled discovery ∧
          cancelled = false ∧
          activity = .pushing job discovery (deploy.deployer.patch job discovery))) :
      Turn deploy cancelled store none { deploy.goOn activity with agentReply := some reply }
  | afterLlm {job : Job} {llmId : String} {reply : Reply LlmRecord} {activity : Activity}
      (hphase : deploy.phase = .running (.reading job llmId))
      (hnext :
        (cancelled = true ∧ activity = .finished (.error .cancelled)) ∨
        (cancelled = false ∧ activity = .pushing job (Discovery.afterLlm llmId reply)
          (deploy.deployer.patch job (Discovery.afterLlm llmId reply)))) :
      Turn deploy cancelled store none { deploy.goOn activity with llmReply := some reply }
  | fail {job : Job} {discovery : Discovery} {patch : Patch} {reply : Reply Unit}
      {detail : String} (hphase : deploy.phase = .running (.pushing job discovery patch))
      (hreply : reply ≠ .answered ()) :
      Turn deploy cancelled store none
        { deploy.goOn (.finished (.error (.remotePushFailed detail))) with
          writeReply := some reply }
  | acknowledge {job : Job} {discovery : Discovery} {patch : Patch}
      (hphase : deploy.phase = .running (.pushing job discovery patch)) :
      Turn deploy cancelled store none
        { deploy with
          phase := .acknowledged job discovery patch, writeReply := some (.answered ()) }
  | mark {job : Job} {discovery : Discovery} {patch : Patch} {flow : Flow} {changed : Store}
      (hphase : deploy.phase = .acknowledged job discovery patch)
      (hcommit : store.commit job.flow.id job.flow.version = .ok (flow, changed)) :
      Turn deploy cancelled store (some (.commit job.flow.id job.flow.version))
        (deploy.goOn (.finished (.ok ⟨patch.script, patch.toolNames, discovery.binding,
          discovery.degraded, flow.version⟩)))
  | conflict {job : Job} {discovery : Discovery} {patch : Patch} {failure : Failure}
      (hphase : deploy.phase = .acknowledged job discovery patch)
      (hcommit : store.commit job.flow.id job.flow.version = .error failure) :
      Turn deploy cancelled store (some (.commit job.flow.id job.flow.version))
        (deploy.goOn (.finished (.error failure)))

/-- Whatever goes wrong with a write is a failed push. -/
theorem Deployer.pushFailure?_cases (deployer : Deployer) (reply : Reply Unit) :
    (reply = .answered () ∧ deployer.pushFailure? reply = none) ∨
      (reply ≠ .answered () ∧
        ∃ detail, deployer.pushFailure? reply = some (.remotePushFailed detail)) := by
  cases reply with
  | answered value => exact .inl ⟨rfl, rfl⟩
  | failed failure =>
    refine .inr ⟨by simp, ?_⟩
    cases failure <;> exact ⟨_, rfl⟩
  | timedOut => exact .inr ⟨by simp, _, rfl⟩

theorem Activity.first_eq (job : Job) (cancelled : Bool) :
    Activity.first job cancelled =
      if cancelled then .finished (.error .cancelled) else .probing job := by
  cases cancelled <;> rfl

namespace Deploy

theorem load_turn {deploy : Deploy} (hphase : deploy.phase = .called) (cancelled : Bool)
    (store : Store) :
    deploy.Turn cancelled store (some (.load deploy.client.id deploy.flowId))
      (deploy.load store) := by
  rw [load]
  split
  · next job hload => exact .load hphase hload
  · next failure hload => exact .refuse hphase hload

theorem conclude_turn {deploy : Deploy} {job : Job} {discovery : Discovery} {patch : Patch}
    (hphase : deploy.phase = .acknowledged job discovery patch) (cancelled : Bool)
    (store : Store) :
    deploy.Turn cancelled store (some (.commit job.flow.id job.flow.version))
      (deploy.goOn (.finished
        (deploy.deployer.conclude job discovery patch (.answered ()) store).result)) := by
  cases hcommit : store.commit job.flow.id job.flow.version with
  | error failure =>
    simpa [Deployer.conclude, Deployer.pushFailure?, hcommit] using
      Turn.conflict hphase hcommit
  | ok marked =>
    obtain ⟨flow, changed⟩ := marked
    simpa [Deployer.conclude, Deployer.pushFailure?, hcommit] using Turn.mark hphase hcommit

theorem afterWrite_turn {deploy : Deploy} {job : Job} {discovery : Discovery} {patch : Patch}
    (hphase : deploy.phase = .running (.pushing job discovery patch)) (cancelled : Bool)
    (store : Store) (reply : Reply Unit) :
    deploy.Turn cancelled store none (deploy.afterWrite job discovery patch reply) := by
  rw [afterWrite]
  rcases deploy.deployer.pushFailure?_cases reply with
    ⟨rfl, hnone⟩ | ⟨hreply, detail, hsome⟩
  · rw [hnone]
    exact .acknowledge hphase
  · rw [hsome]
    exact .fail hphase hreply

theorem afterAgent_turn {deploy : Deploy} {job : Job}
    (hphase : deploy.phase = .running (.probing job)) (cancelled : Bool) (store : Store)
    (reply : Reply AgentRecord) :
    deploy.Turn cancelled store none
      { deploy.goOn (Activity.afterAgent deploy.deployer job reply cancelled).1 with
        agentReply := some reply } := by
  refine .afterAgent hphase ?_
  rw [Activity.afterAgent]
  cases hprobe : Discovery.afterAgent job.agentId reply with
  | refersTo llmId => exact .inl ⟨llmId, rfl, rfl⟩
  | settled discovery =>
    cases cancelled with
    | true => exact .inr (.inl ⟨discovery, rfl, rfl, rfl⟩)
    | false => exact .inr (.inr ⟨discovery, rfl, rfl, rfl⟩)

theorem afterLlm_turn {deploy : Deploy} {job : Job} {llmId : String}
    (hphase : deploy.phase = .running (.reading job llmId)) (cancelled : Bool) (store : Store)
    (reply : Reply LlmRecord) :
    deploy.Turn cancelled store none
      { deploy.goOn (Activity.afterLlm deploy.deployer job llmId reply cancelled).1 with
        llmReply := some reply } := by
  refine .afterLlm hphase ?_
  cases cancelled with
  | true => exact .inl ⟨rfl, rfl⟩
  | false => exact .inr ⟨rfl, rfl⟩

/-- A step does nothing but what `Turn` lists. -/
theorem turn_step (deploy : Deploy) (cancelled : Bool) (store : Store) (input : Input) :
    deploy.Turn cancelled store (deploy.request? input) (deploy.step cancelled store input) := by
  cases input with
  | proceed =>
    cases hphase : deploy.phase with
    | called => simpa [step, request?, hphase] using load_turn hphase cancelled store
    | loaded job =>
      cases hcancelled : cancelled with
      | true => simpa [step, request?, hphase, Activity.first_eq] using Turn.giveUp hphase rfl
      | false => simpa [step, request?, hphase, Activity.first_eq] using Turn.probe hphase rfl
    | acknowledged job discovery patch =>
      simpa [step, request?, hphase] using conclude_turn hphase cancelled store
    | running activity => simpa [step, request?, hphase] using Turn.stay
  | agent reply =>
    simp only [step, request?]
    split
    · next job hphase => exact afterAgent_turn hphase cancelled store reply
    · exact .stay
  | llm reply =>
    simp only [step, request?]
    split
    · next job llmId hphase => exact afterLlm_turn hphase cancelled store reply
    · exact .stay
  | write reply =>
    simp only [step, request?]
    split
    · next job discovery patch hphase => exact afterWrite_turn hphase cancelled store reply
    · exact .stay

end Deploy

/-! ## Scenes -/

/-- What happens in a scene. -/
inductive Move where
  /-- A deploy is called. -/
  | call (deployer : Deployer) (client : Client) (flowId : String) (signal : Option String)
  /-- The deploy at a place takes a step. -/
  | advance (place : Nat) (input : Input)
  /-- Somebody else calls the store. -/
  | ask (request : Store.Request)
  /-- A signal is raised. -/
  | raise (signal : String)

/-- A store that deploys and others share. -/
structure Scene where
  store : Store
  /-- The signals that were raised. -/
  raised : List String
  /-- The deploys that were called, oldest first. -/
  deploys : List Deploy
  /-- The calls to the store, oldest first. -/
  log : List Access

namespace Scene

/-- The scene in which nothing has happened yet. -/
def start (store : Store) : Scene :=
  ⟨store, [], [], []⟩

/-- Whether a signal was raised; no signal never is. -/
def isRaised (scene : Scene) : Option String → Bool
  | some signal => scene.raised.contains signal
  | none => false

/-- The scene after a call to the store. -/
def access (scene : Scene) (caller : Option Nat) (request : Store.Request) : Scene :=
  { scene with
    store := (scene.store.answer request).2
    log := scene.log ++ [⟨caller, request, scene.store⟩] }

/-- The scene after a step of the deploy at a place. -/
def advance (scene : Scene) (place : Nat) (deploy : Deploy) (input : Input) : Scene :=
  let next := deploy.step (scene.isRaised deploy.signal) scene.store input
  let moved := { scene with deploys := scene.deploys.set place next }
  match deploy.request? input with
  | some request => moved.access (some place) request
  | none => moved

/-- The scene after a move. -/
def step (scene : Scene) : Move → Scene
  | .call deployer client flowId signal =>
    { scene with deploys := scene.deploys ++ [.new deployer client flowId signal] }
  | .advance place input =>
    match scene.deploys[place]? with
    | some deploy => scene.advance place deploy input
    | none => scene
  | .ask request => scene.access none request
  | .raise signal => { scene with raised := signal :: scene.raised }

/-- The scene after moves in turn. -/
def run (scene : Scene) (moves : List Move) : Scene :=
  moves.foldl step scene

@[simp]
theorem run_nil (scene : Scene) : scene.run [] = scene :=
  rfl

@[simp]
theorem run_cons (scene : Scene) (move : Move) (moves : List Move) :
    scene.run (move :: moves) = (scene.step move).run moves :=
  rfl

theorem run_append (scene : Scene) (front back : List Move) :
    scene.run (front ++ back) = (scene.run front).run back :=
  List.foldl_append

end Scene

end CallFlow
