import CallFlow.Proofs.Agent.Discovery
import CallFlow.Proofs.Scene.Attempt

/-!
# The calls of a deploy to the directory

Whatever the directory replies, the calls that a deploy begins form one of five sequences.  It reads
its agent, it may read the language model that the agent refers to, and it writes at most once: to
that model if it tried to read it, whether or not the read succeeded, and to the agent otherwise.

A deploy begins no call just when it is turned away at one of its first two steps: when it loads its
flow and the flow is not fit for a deploy, or when it looks at its signal and the signal is raised.
-/

namespace CallFlow

/-! ## The five sequences -/

namespace Deploy

/-- A deploy works at the flow that it loaded, for its own client, and for the agent whose id the
flow holds between white space. -/
structure WorksAt (deploy : Deploy) (job : Job) : Prop where
  flow : deploy.flow = some job.flow
  client : job.client = deploy.client
  agent : ∃ text, job.flow.agentId = some text ∧ Text.blank text = false ∧
    job.agentId = Text.trim text

/-- What a deploy writes: the script of its nodes, and their tools merged with those it found. -/
def patchOf (deploy : Deploy) (job : Job) (found : List Tool) : Patch :=
  ⟨(Script.compile job.flow.nodes).text,
    Tool.merge found (deploy.deployer.resolver.resolve (Script.compile job.flow.nodes).providers
      job.flow.nodes deploy.client)⟩

theorem patch_eq {deploy : Deploy} {job : Job} (hclient : job.client = deploy.client)
    (discovery : Discovery) :
    deploy.deployer.patch job discovery = deploy.patchOf job discovery.existing := by
  rw [patchOf, ← hclient]
  rfl

/-- The sequences of calls that a deploy may have begun. -/
inductive CallProtocol (deploy : Deploy) : List Call → Prop
  | silent : CallProtocol deploy []
  | probed {job : Job} (hjob : deploy.WorksAt job) :
      CallProtocol deploy [.fetchAgent job.agentId]
  | read {job : Job} {reply : Reply AgentRecord} {llmId : String} (hjob : deploy.WorksAt job)
      (hreply : deploy.agentReply = some reply) (hrefers : reply.RefersTo llmId) :
      CallProtocol deploy [.fetchAgent job.agentId, .fetchLlm llmId]
  | wroteAgent {job : Job} {reply : Reply AgentRecord} (hjob : deploy.WorksAt job)
      (hreply : deploy.agentReply = some reply) (hrefers : ∀ llmId, ¬ reply.RefersTo llmId) :
      CallProtocol deploy [.fetchAgent job.agentId,
        .write (.inline job.agentId) (deploy.patchOf job reply.agentTools)]
  | wroteLlm {job : Job} {reply : Reply AgentRecord} {llmId : String}
      {answer : Reply LlmRecord} (hjob : deploy.WorksAt job)
      (hreply : deploy.agentReply = some reply) (hrefers : reply.RefersTo llmId)
      (hanswer : deploy.llmReply = some answer) :
      CallProtocol deploy [.fetchAgent job.agentId, .fetchLlm llmId,
        .write (.llmBound llmId) (deploy.patchOf job answer.llmTools)]

variable {deploy next : Deploy}

/-- The sequences depend on what a deploy is asked for, on its flow, and on the replies to its
reads. -/
theorem CallProtocol.congr {calls : List Call} (h : deploy.CallProtocol calls)
    (hdeployer : next.deployer = deploy.deployer) (hclient : next.client = deploy.client)
    (hflow : next.flow = deploy.flow) (hagent : next.agentReply = deploy.agentReply)
    (hllm : next.llmReply = deploy.llmReply) : next.CallProtocol calls := by
  have hworks : ∀ {job : Job}, deploy.WorksAt job → next.WorksAt job := fun hjob =>
    ⟨hflow.trans hjob.flow, hjob.client.trans hclient.symm, hjob.agent⟩
  have hpatch : ∀ job found, deploy.patchOf job found = next.patchOf job found := by
    intro job found
    rw [patchOf, patchOf, hdeployer, hclient]
  cases h with
  | silent => exact .silent
  | probed hjob => exact .probed (hworks hjob)
  | read hjob hreply hrefers => exact .read (hworks hjob) (hagent.trans hreply) hrefers
  | wroteAgent hjob hreply hrefers =>
    rw [hpatch]
    exact .wroteAgent (hworks hjob) (hagent.trans hreply) hrefers
  | wroteLlm hjob hreply hrefers hanswer =>
    rw [hpatch]
    exact .wroteLlm (hworks hjob) (hagent.trans hreply) hrefers (hllm.trans hanswer)

/-- A write goes to the language model that was to be read before it, if there was one. -/
theorem CallProtocol.target_eq_llmBound_iff {calls : List Call} (h : deploy.CallProtocol calls)
    {target : Binding} {patch : Patch} (hwrite : .write target patch ∈ calls) (llmId : String) :
    target = .llmBound llmId ↔ .fetchLlm llmId ∈ calls := by
  cases h with
  | silent => cases hwrite
  | probed hjob => simp at hwrite
  | read hjob hreply hrefers => simp at hwrite
  | wroteAgent hjob hreply hrefers =>
    obtain ⟨rfl, -⟩ : target = .inline _ ∧ patch = _ := by simpa using hwrite
    simp
  | wroteLlm hjob hreply hrefers hanswer =>
    obtain ⟨rfl, -⟩ : target = .llmBound _ ∧ patch = _ := by simpa using hwrite
    simp [eq_comm]

/-! ## Keeping the protocol -/

/-- The calls that a deploy has begun, by its phase. -/
def Asked (deploy : Deploy) : Prop :=
  match deploy.phase with
  | .called => deploy.calls = []
  | .loaded job => deploy.WorksAt job ∧ deploy.calls = []
  | .running (.probing job) => deploy.WorksAt job ∧ deploy.calls = [.fetchAgent job.agentId]
  | .running (.reading job llmId) =>
    deploy.WorksAt job ∧
      (∃ reply, deploy.agentReply = some reply ∧ reply.RefersTo llmId) ∧
      deploy.calls = [.fetchAgent job.agentId, .fetchLlm llmId]
  | .running (.pushing _ _ _) | .acknowledged _ _ _ | .running (.finished _) =>
    deploy.CallProtocol deploy.calls

theorem Asked.callProtocol (h : deploy.Asked) : deploy.CallProtocol deploy.calls := by
  rw [Asked] at h
  split at h
  · rw [h]
    exact .silent
  · rw [h.2]
    exact .silent
  · rw [h.2]
    exact .probed h.1
  · obtain ⟨hjob, ⟨reply, hreply, hrefers⟩, hcalls⟩ := h
    rw [hcalls]
    exact .read hjob hreply hrefers
  · exact h
  · exact h
  · exact h

/-- A deploy that ends begins no further call. -/
theorem Asked.finish (h : deploy.Asked) (result : Except Failure Outcome) :
    (deploy.goOn (.finished result)).CallProtocol (deploy.goOn (.finished result)).calls := by
  have hcalls : (deploy.goOn (.finished result)).calls = deploy.calls := by
    rw [goOn_calls]
    exact List.append_nil _
  rw [hcalls]
  exact h.callProtocol.congr rfl rfl rfl rfl rfl

theorem worksAt_of_load {store : Store} {job : Job}
    (h : Job.load store deploy.client deploy.flowId = .ok job) :
    WorksAt { deploy with phase := .loaded job, flow := some job.flow } job where
  flow := rfl
  client := (Job.load_eq_ok h).2.2.2.2
  agent := by
    obtain ⟨-, -, -, hlinked, -⟩ := Job.load_eq_ok h
    unfold Flow.linkedAgent Text.nonBlank at hlinked
    split at hlinked
    · cases hlinked
    · next text hagent =>
      split at hlinked
      · cases hlinked
      · next hblank => exact ⟨text, hagent, by simpa using hblank, (Option.some.inj hlinked).symm⟩

/-- A step keeps the calls in one of the five sequences. -/
theorem Asked.turn {cancelled : Bool} {store : Store} {request : Option Store.Request}
    (h : deploy.Asked) (hturn : deploy.Turn cancelled store request next) : next.Asked := by
  have hasked := h
  cases hturn with
  | stay => exact h
  | refuse hphase hload => exact hasked.finish _
  | load hphase hload =>
    rw [Asked, hphase] at h
    exact ⟨worksAt_of_load hload, h⟩
  | giveUp hphase hcancelled => exact hasked.finish _
  | @probe job hphase hcancelled =>
    rw [Asked, hphase] at h
    refine ⟨⟨h.1.flow, h.1.client, h.1.agent⟩, ?_⟩
    rw [goOn_calls, h.2]
    rfl
  | @afterAgent job reply activity hphase hnext =>
    rw [Asked, hphase] at h
    obtain ⟨hjob, hcalls⟩ := h
    have hworks : WorksAt { deploy.goOn activity with agentReply := some reply } job :=
      ⟨hjob.flow, hjob.client, hjob.agent⟩
    rcases hnext with ⟨llmId, hprobe, rfl⟩ | ⟨discovery, -, -, rfl⟩ | ⟨discovery, hprobe, -, rfl⟩
    · refine ⟨hworks, ⟨reply, rfl, Discovery.afterAgent_eq_refersTo_iff.mp hprobe⟩, ?_⟩
      change (deploy.goOn _).calls = _
      rw [goOn_calls, hcalls]
      rfl
    · change CallProtocol _ (deploy.goOn _).calls
      rw [goOn_calls, hcalls]
      exact .probed hworks
    · obtain ⟨hbinding, hfound⟩ := Discovery.of_afterAgent_settled hprobe
      have hrefers : ∀ llmId, ¬ reply.RefersTo llmId := by
        intro llmId hrefers
        have hprobed : Discovery.afterAgent job.agentId reply = .refersTo llmId :=
          Discovery.afterAgent_eq_refersTo_iff.mpr hrefers
        rw [hprobe] at hprobed
        cases hprobed
      have hcall : (Activity.pushing job discovery (deploy.deployer.patch job discovery)).call? =
          some (.write (.inline job.agentId) (deploy.patchOf job reply.agentTools)) := by
        rw [Activity.call?, hbinding, patch_eq hjob.client, hfound]
      change CallProtocol _ (deploy.goOn _).calls
      rw [goOn_calls, hcalls, hcall]
      exact .wroteAgent hworks rfl hrefers
  | @afterLlm job llmId answer activity hphase hnext =>
    rw [Asked, hphase] at h
    obtain ⟨hjob, ⟨reply, hreply, hrefers⟩, hcalls⟩ := h
    have hworks : WorksAt { deploy.goOn activity with llmReply := some answer } job :=
      ⟨hjob.flow, hjob.client, hjob.agent⟩
    rcases hnext with ⟨-, rfl⟩ | ⟨-, rfl⟩
    · change CallProtocol _ (deploy.goOn _).calls
      rw [goOn_calls, hcalls]
      exact .read hworks hreply hrefers
    · obtain ⟨hbinding, hfound⟩ := Discovery.afterLlm_eq llmId answer
      have hcall : (Activity.pushing job (Discovery.afterLlm llmId answer)
          (deploy.deployer.patch job (Discovery.afterLlm llmId answer))).call? =
            some (.write (.llmBound llmId) (deploy.patchOf job answer.llmTools)) := by
        rw [Activity.call?, hbinding, patch_eq hjob.client, hfound]
      change CallProtocol _ (deploy.goOn _).calls
      rw [goOn_calls, hcalls, hcall]
      exact .wroteLlm hworks hreply hrefers rfl
  | @fail job discovery patch reply detail hphase hreply =>
    exact (hasked.finish (.error (.remotePushFailed detail))).congr rfl rfl rfl rfl rfl
  | acknowledge hphase =>
    rw [Asked, hphase] at h
    exact h.congr rfl rfl rfl rfl rfl
  | mark hphase hcommit => exact hasked.finish _
  | conflict hphase hcommit => exact hasked.finish _

end Deploy

theorem Scene.asked_run (store : Store) (moves : List Move) {place : Nat} {deploy : Deploy}
    (hdeploy : ((start store).run moves).deploys[place]? = some deploy) : deploy.Asked := by
  refine deploy_induction (P := fun _ _ _ deploy => deploy.Asked) ?_ ?_ ?_ ?_ store moves hdeploy
  · intro log store place deployer client flowId signal _
    rfl
  · intro log place deploy access h _
    exact h
  · intro log store place deploy next cancelled h hturn
    exact h.turn hturn
  · intro log place deploy next cancelled access h hturn _
    exact h.turn hturn

/-! ## Deploys that begin no call -/

/-- The store holds a flow that is fit for a deploy: it belongs to the client, the ids of its nodes
are valid, and it is linked to an agent. -/
def Store.Deployable (store : Store) (clientId flowId : String) : Prop :=
  ∃ flow, store.get? flowId = some flow ∧ flow.clientId = clientId ∧ flow.validate = .ok () ∧
    flow.linkedAgent.isSome

theorem Job.exists_load_eq_error_iff {store : Store} {client : Client} {flowId : String} :
    (∃ failure, Job.load store client flowId = .error failure) ↔
      ¬ store.Deployable client.id flowId := by
  constructor
  · rintro ⟨failure, hload⟩ ⟨flow, hflow, howner, hvalid, hlinked⟩
    obtain ⟨agentId, hagent⟩ := Option.isSome_iff_exists.mp hlinked
    rw [Job.load_of_linkedAgent hflow howner hvalid hagent] at hload
    cases hload
  · intro hunfit
    cases hload : Job.load store client flowId with
    | error failure => exact ⟨failure, rfl⟩
    | ok job =>
      obtain ⟨hflow, howner, hvalid, hlinked, -⟩ := Job.load_eq_ok hload
      exact absurd ⟨job.flow, hflow, howner, hvalid, by rw [hlinked]; rfl⟩ hunfit

namespace Deploy

/-- Calls that were begun stay begun. -/
theorem calls_prefix_step (deploy : Deploy) (cancelled : Bool) (store : Store) (input : Input) :
    deploy.calls <+: (deploy.step cancelled store input).calls := by
  have hturn := deploy.turn_step cancelled store input
  generalize deploy.step cancelled store input = next at hturn ⊢
  generalize deploy.request? input = request at hturn
  cases hturn with
  | stay => exact List.prefix_rfl
  | load => exact List.prefix_rfl
  | acknowledge => exact List.prefix_rfl
  | _ => exact List.prefix_append _ _

/-- A deploy that waits for the directory, or for its mark, has begun a call. -/
theorem Asked.calls_ne_nil {deploy : Deploy} (h : deploy.Asked) (haccounted : deploy.Accounted)
    (hcalled : deploy.phase ≠ .called) (hloaded : ∀ job, deploy.phase ≠ .loaded job)
    (hfinished : ∀ result, deploy.phase ≠ .running (.finished result)) : deploy.calls ≠ [] := by
  intro hcalls
  rw [Asked] at h
  rw [Accounted] at haccounted
  have hwrote : ∀ script, ¬ deploy.WroteScript script := by
    rintro script ⟨flow, target, patch, -, hwrites, -⟩
    rw [writes_eq_nil hcalls] at hwrites
    cases hwrites
  cases hphase : deploy.phase with
  | called => exact hcalled hphase
  | loaded job => exact hloaded job hphase
  | acknowledged job discovery patch =>
    rw [hphase] at haccounted
    exact hwrote _ haccounted.1
  | running activity =>
    rw [hphase] at h haccounted
    cases activity with
    | probing job =>
      rw [h.2] at hcalls
      cases hcalls
    | reading job llmId =>
      rw [h.2.2] at hcalls
      cases hcalls
    | pushing job discovery patch => exact hwrote _ haccounted
    | finished result => exact hfinished result hphase

end Deploy

namespace Scene

/-- In the course of a run the deploy at a place goes on by itself: in this scene, as this
deploy. -/
def Proceeds (store : Store) (moves : List Move) (place : Nat) (scene : Scene) (deploy : Deploy) :
    Prop :=
  ∃ front back, moves = front ++ .advance place .proceed :: back ∧
    (start store).run front = scene ∧ scene.deploys[place]? = some deploy

/-- A deploy was turned away: when it loaded its flow the flow was not fit for a deploy, or when it
looked at its signal in front of its first call the signal was raised. -/
def TurnedAway (store : Store) (moves : List Move) (place : Nat) (deploy : Deploy) : Prop :=
  (∃ scene before, Proceeds store moves place scene before ∧ before.phase = .called ∧
    ¬ scene.store.Deployable deploy.client.id deploy.flowId) ∨
  (∃ scene before job, Proceeds store moves place scene before ∧ before.phase = .loaded job ∧
    scene.isRaised deploy.signal = true)

theorem Proceeds.append {store : Store} {moves : List Move} {place : Nat} {scene : Scene}
    {deploy : Deploy} (h : Proceeds store moves place scene deploy) (later : List Move) :
    Proceeds store (moves ++ later) place scene deploy := by
  obtain ⟨front, back, rfl, hscene, hdeploy⟩ := h
  exact ⟨front, back ++ later, by simp, hscene, hdeploy⟩

theorem TurnedAway.append {store : Store} {moves : List Move} {place : Nat} {deploy : Deploy}
    (h : TurnedAway store moves place deploy) (later : List Move) :
    TurnedAway store (moves ++ later) place deploy := by
  rcases h with ⟨scene, before, hproceeds, h⟩ | ⟨scene, before, job, hproceeds, h⟩
  · exact .inl ⟨scene, before, hproceeds.append later, h⟩
  · exact .inr ⟨scene, before, job, hproceeds.append later, h⟩

/-- A deploy that ends without a call was turned away. -/
theorem turnedAway_of_calls_eq_nil (store : Store) (moves : List Move) {place : Nat}
    {deploy : Deploy} {result : Except Failure Outcome}
    (hdeploy : ((start store).run moves).deploys[place]? = some deploy)
    (hphase : deploy.phase = .running (.finished result)) (hcalls : deploy.calls = []) :
    TurnedAway store moves place deploy := by
  induction moves using List.reverseRecOn with
  | nil => simp [start] at hdeploy
  | append_singleton moves move ih =>
    rw [run_append, run_cons, run_nil] at hdeploy
    rcases getElem?_step_cases hdeploy with
      hbefore | ⟨deployer, client, flowId, signal, rfl⟩ | ⟨before, input, rfl, hbefore, rfl⟩
    · exact (ih hbefore).append [move]
    · cases hphase
    · -- The step is the one that ended the deploy, or the deploy had ended in front of it.
      have hsilent : before.calls = [] :=
        List.prefix_nil.mp (hcalls ▸ before.calls_prefix_step _ _ input)
      have hasked := asked_run store moves hbefore
      have haccounted := (accounted_run store moves hbefore).2
      cases hfrom : before.phase with
      | called =>
        cases input with
        | proceed =>
          refine .inl ⟨_, before, ⟨moves, [], rfl, rfl, hbefore⟩, hfrom, ?_⟩
          simp only [Deploy.step, hfrom, Deploy.load] at hphase ⊢
          cases hload : Job.load ((start store).run moves).store before.client before.flowId with
          | ok job => simp [hload] at hphase
          | error failure => exact Job.exists_load_eq_error_iff.mp ⟨failure, hload⟩
        | _ => simp [Deploy.step, hfrom] at hphase
      | loaded job =>
        cases input with
        | proceed =>
          refine .inr ⟨_, before, job, ⟨moves, [], rfl, rfl, hbefore⟩, hfrom, ?_⟩
          simp only [Deploy.step, hfrom, Activity.first_eq, Deploy.goOn_phase] at hphase ⊢
          cases hraised : ((start store).run moves).isRaised before.signal with
          | true => exact hraised
          | false => simp [hraised] at hphase
        | _ => simp [Deploy.step, hfrom] at hphase
      | acknowledged job discovery patch =>
        exact absurd hsilent (hasked.calls_ne_nil haccounted (by simp [hfrom]) (by simp [hfrom])
          (by simp [hfrom]))
      | running activity =>
        cases activity with
        | finished ended =>
          have hstays : before.step (((start store).run moves).isRaised before.signal)
              ((start store).run moves).store input = before := by
            cases input <;> simp [Deploy.step, hfrom]
          rw [hstays] at ih ⊢
          exact (ih hbefore).append _
        | _ =>
          exact absurd hsilent (hasked.calls_ne_nil haccounted (by simp [hfrom]) (by simp [hfrom])
            (by simp [hfrom]))

/-- A deploy that was turned away is finished without a call. -/
theorem calls_eq_nil_of_turnedAway {store : Store} {moves : List Move} {place : Nat}
    {deploy : Deploy} (hdeploy : ((start store).run moves).deploys[place]? = some deploy)
    (h : TurnedAway store moves place deploy) : deploy.calls = [] := by
  have hends : ∀ (front back : List Move) (before : Deploy) (failure : Failure),
      moves = front ++ .advance place .proceed :: back →
      ((start store).run front).deploys[place]? = some before → before.calls = [] →
      before.step (((start store).run front).isRaised before.signal) ((start store).run front).store
        .proceed = before.goOn (.finished (.error failure)) → deploy.calls = [] := by
    rintro front back before failure rfl hbefore hcalls hstep
    have hended := getElem?_step_advance hbefore .proceed
    rw [hstep] at hended
    have hstays := getElem?_run_of_finished hended rfl back
    rw [run_append, run_cons] at hdeploy
    obtain rfl := Option.some.inj (hdeploy.symm.trans hstays)
    rw [Deploy.goOn_calls, hcalls]
    rfl
  rcases h with ⟨scene, before, ⟨front, back, hmoves, rfl, hbefore⟩, hphase, hunfit⟩ |
    ⟨scene, before, job, ⟨front, back, hmoves, rfl, hbefore⟩, hphase, hraised⟩
  · obtain ⟨later, hlater, hclient, hflowId, -⟩ :=
      exists_getElem?_run hbefore (.advance place .proceed :: back)
    rw [← run_append, ← hmoves] at hlater
    obtain rfl := Option.some.inj (hdeploy.symm.trans hlater)
    rw [hclient, hflowId] at hunfit
    obtain ⟨failure, hload⟩ := Job.exists_load_eq_error_iff.mpr hunfit
    have hcalls := (accounted_run store front hbefore).2
    rw [Deploy.Accounted, hphase] at hcalls
    refine hends front back before failure hmoves hbefore hcalls ?_
    simp [Deploy.step, hphase, Deploy.load, hload]
  · obtain ⟨later, hlater, -, -, hsignal⟩ :=
      exists_getElem?_run hbefore (.advance place .proceed :: back)
    rw [← run_append, ← hmoves] at hlater
    obtain rfl := Option.some.inj (hdeploy.symm.trans hlater)
    rw [hsignal] at hraised
    have hcalls := (accounted_run store front hbefore).2
    rw [Deploy.Accounted, hphase] at hcalls
    refine hends front back before .cancelled hmoves hbefore hcalls ?_
    simp [Deploy.step, hphase, Activity.first_eq, hraised]

/-- Throughout every run the calls of a deploy form one of the five sequences, for the flow that it
loaded from the store.  A write goes to the language model that was to be read, and to the agent if
none was.  A finished deploy began no call just when it was turned away. -/
theorem callProtocol_run (store : Store) (moves : List Move) {place : Nat} {deploy : Deploy}
    (hdeploy : ((start store).run moves).deploys[place]? = some deploy) :
    deploy.CallProtocol deploy.calls ∧
      (∀ flow, deploy.flow = some flow → Nonempty
        (Loading ((start store).run moves).log place deploy.client.id deploy.flowId flow)) ∧
      (∀ target patch, .write target patch ∈ deploy.calls →
        ∀ llmId, target = .llmBound llmId ↔ .fetchLlm llmId ∈ deploy.calls) ∧
      ∀ result, deploy.result? = some result →
        (deploy.calls = [] ↔ TurnedAway store moves place deploy) := by
  have hprotocol := (asked_run store moves hdeploy).callProtocol
  refine ⟨hprotocol, (traced_run store moves hdeploy).loaded, ?_, ?_⟩
  · intro target patch hwrite llmId
    exact hprotocol.target_eq_llmBound_iff hwrite llmId
  · intro result hresult
    constructor
    · intro hcalls
      rw [Deploy.result?] at hresult
      split at hresult
      · next ended hphase => exact turnedAway_of_calls_eq_nil store moves hdeploy hphase hcalls
      · cases hresult
    · exact calls_eq_nil_of_turnedAway hdeploy

/-- A deploy whose agent refers to a language model by an id with white space around it; the read of
the model is given up, and the write is acknowledged. -/
def referringMoves : List Move :=
  [.call (Deployer.new "https://portal.example.com/api") ⟨"c", []⟩ "f" none,
    .advance 0 .proceed, .advance 0 .proceed,
    .advance 0 (.agent (.answered (.llmBound "a" " l "))), .advance 0 (.llm .timedOut),
    .advance 0 (.write (.answered ())), .advance 0 .proceed]

/-- The deploy of that run writes to the model that it could not read. -/
theorem callProtocol_run_of_referring :
    ∃ deploy, ((start rivalStore).run referringMoves).deploys[0]? = some deploy ∧
      deploy.CallProtocol deploy.calls ∧
      deploy.calls.map Call.description = ["fetch_agent a", "fetch_llm  l ", "update_llm  l "] ∧
      ¬ TurnedAway rivalStore referringMoves 0 deploy := by
  obtain ⟨deploy, outcome, hdeploy, hresult, hcalls⟩ :
      ∃ deploy outcome, ((start rivalStore).run referringMoves).deploys[0]? = some deploy ∧
        deploy.result? = some (.ok outcome) ∧
        deploy.calls.map Call.description =
          ["fetch_agent a", "fetch_llm  l ", "update_llm  l "] := ⟨_, _, rfl, rfl, rfl⟩
  obtain ⟨hprotocol, -, -, hempty⟩ := callProtocol_run rivalStore referringMoves hdeploy
  refine ⟨deploy, hdeploy, hprotocol, hcalls, fun haway => ?_⟩
  rw [(hempty _ hresult).mpr haway] at hcalls
  cases hcalls

end Scene

end CallFlow
