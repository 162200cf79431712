import CallFlow.Proofs.Http.Service
import CallFlow.Proofs.Rehearsal.Preview

/-!
# Deploys over a service and in memory

Clients deploy flows and edit them, one errand after the other.  Whether the directory is a service
or is kept in memory makes no difference to them beyond the details of failures: the outcomes are the
same, so are the stored flows, and in the end both directories hold the same records.  What carries
this along is that no errand writes anything that a text could not hold.
-/

namespace CallFlow

open Json

/-! ## Without details -/

/-- A reason without what was said of a failed read. -/
def DegradeReason.undetailed : DegradeReason → DegradeReason
  | .agentProbeFailed _ => .agentProbeFailed ""
  | .llmReadFailed _ => .llmReadFailed ""
  | reason => reason

/-- The result of a deploy without what the directory said of its failures. -/
def undetailed : Except Failure Outcome → Except Failure Outcome
  | .ok outcome =>
    .ok { outcome with degraded := outcome.degraded.map DegradeReason.undetailed }
  | .error (.remotePushFailed _) => .error (.remotePushFailed "")
  | .error failure => .error failure

/-! ## Errands -/

/-- Something that a client does with a flow. -/
inductive Errand where
  | deploy (deployer : Deployer) (client : Client) (flowId : String) (cancelled : Bool)
  /-- Replaces the nodes and edges of a flow. -/
  | edit (clientId flowId : String) (nodes : List Node) (edges : List Edge)
  /-- Puts a flow in, in the place of another with its id. -/
  | put (flow : Flow)

/-- The flows and the directory between two errands, and how the deploys so far ended. -/
structure Session (σ : Type) where
  store : Store
  remote : σ
  results : List (Except Failure Outcome)

namespace Session

variable {σ : Type}

/-- Carries out an errand. -/
def perform (respond : Responder σ) (session : Session σ) : Errand → Session σ
  | .deploy deployer client flowId cancelled =>
    let run := deployer.run respond client flowId cancelled session.store session.remote
    ⟨run.store, run.remote, session.results ++ [run.result]⟩
  | .edit clientId flowId nodes edges =>
    match session.store.save clientId flowId nodes edges with
    | .ok (_, store) => { session with store }
    | .error _ => session
  | .put flow => { session with store := session.store.insert flow }

/-- Carries out errands one after the other. -/
def performAll (respond : Responder σ) (session : Session σ) (errands : List Errand) : Session σ :=
  errands.foldl (perform respond) session

end Session

namespace Http

variable {σ : Type} {root : Url} {held : σ → Directory} {respond : Responder σ}

/-! ## Discovery -/

/-- Two discoveries find the same, but for the details of their failures. -/
structure SameFinding (discovery other : Discovery) : Prop where
  binding : other.binding = discovery.binding
  existing : other.existing = discovery.existing
  degraded : other.degraded.map DegradeReason.undetailed =
    discovery.degraded.map DegradeReason.undetailed

theorem afterAgent_alike {reply other : Reply AgentRecord} (h : reply.Alike other)
    (agentId : String) :
    (∃ llmId, Discovery.afterAgent agentId reply = .refersTo llmId ∧
      Discovery.afterAgent agentId other = .refersTo llmId) ∨
    ∃ finding same, Discovery.afterAgent agentId reply = .settled finding ∧
      Discovery.afterAgent agentId other = .settled same ∧ SameFinding finding same := by
  cases h with
  | answered record =>
    cases hprobe : Discovery.afterAgent agentId (.answered record) with
    | refersTo llmId => exact .inl ⟨llmId, rfl, rfl⟩
    | settled finding => exact .inr ⟨finding, finding, rfl, rfl, rfl, rfl, rfl⟩
  | failed failure missing => exact .inr ⟨_, _, rfl, rfl, rfl, rfl, rfl⟩

theorem afterLlm_alike {reply other : Reply LlmRecord} (h : reply.Alike other) (llmId : String) :
    SameFinding (Discovery.afterLlm llmId reply) (Discovery.afterLlm llmId other) := by
  cases h with
  | answered record => exact ⟨rfl, rfl, rfl⟩
  | failed failure missing => exact ⟨rfl, rfl, rfl⟩

/-- A responder that follows a directory in memory discovers what is discovered there. -/
theorem Follows.discover (h : Follows root respond held) {agentId : String} {limitMs : Nat}
    {state : σ} {memory : Directory} (hmirrors : Mirrors root (held state) memory)
    (hid : root.Names agentId) :
    SameFinding (respond.discover agentId limitMs state).discovery
        (Directory.responder.discover agentId limitMs memory).discovery ∧
      Mirrors root (held (respond.discover agentId limitMs state).remote) memory := by
  have hstays {call : Call} (hread : call.isWrite = false) :
      (Directory.responder call limitMs memory).2 = memory :=
    memory.settle_of_not_isWrite hread _
  obtain ⟨hfirst, hafter⟩ := h (.fetchAgent agentId) limitMs state memory ⟨hid, nofun⟩ hmirrors
  rw [hstays rfl] at hafter
  rcases afterAgent_alike hfirst agentId with
    ⟨llmId, hprobe, hother⟩ | ⟨finding, same, hprobe, hother, hsame⟩
  · obtain ⟨record, hreply, hengine, -⟩ := Discovery.afterAgent_eq_refersTo_iff.mp hother
    have hllmId : root.Names llmId := hmirrors.servable.reference agentId record llmId
      (Directory.agent?_of_answered hreply) hengine
    obtain ⟨hsecond, hlater⟩ := h (.fetchLlm llmId) limitMs _ memory ⟨hllmId, nofun⟩ hafter
    rw [hstays rfl] at hlater
    have hread : (Directory.responder (.fetchAgent agentId) limitMs memory).2 = memory := hstays rfl
    rw [Responder.discover_of_refersTo hprobe, Responder.discover_of_refersTo hother, hread]
    exact ⟨afterLlm_alike hsecond llmId, hlater⟩
  · rw [Responder.discover_of_settled hprobe, Responder.discover_of_settled hother]
    exact ⟨hsame, hafter⟩

/-- The binding that is discovered for an agent can be addressed if the agent can. -/
theorem names_binding {memory : Directory} (hservable : Servable root memory) {agentId : String}
    (hid : root.Names agentId) (limitMs : Nat) (patch : Patch) :
    root.Names (Call.write
      (Directory.responder.discover agentId limitMs memory).discovery.binding patch).recordId := by
  rw [Directory.discovery_discover]
  split
  · next finding hprobe =>
    rw [(Discovery.of_afterAgent_settled hprobe).1]
    exact hid
  · next llmId hprobe =>
    obtain ⟨record, hreply, hengine, -⟩ := Discovery.afterAgent_eq_refersTo_iff.mp hprobe
    rw [(Discovery.afterLlm_eq llmId _).1]
    exact hservable.reference agentId record llmId (Directory.agent?_of_answered hreply) hengine

/-! ## Deploys -/

/-- The tools that a deploy writes may be stored where it writes them: they were stored there
before, or are built. -/
theorem storable_of_mem_patch {memory : Directory} (hservable : Servable root memory)
    (deployer : Deployer) (job : Job) (limitMs : Nat) :
    let discovery := (Directory.responder.discover job.agentId limitMs memory).discovery
    ∀ tool ∈ (deployer.patch job discovery).tools, tool.Storable discovery.binding.room := by
  intro discovery tool htool
  have htells := memory.discovered_discover job.agentId limitMs
  have hroom : 4 ≤ discovery.binding.room := by
    cases discovery.binding <;> simp [Binding.room]
  rcases Tool.mem_or_mem_of_mem_merge htool with hexisting | hbuilt
  · by_cases hfound : discovery.degraded = none
    · exact hservable.storable (htells.found hfound) tool hexisting
    · rw [htells.degraded hfound] at hexisting
      cases hexisting
  · exact (deployer.resolver.built_of_mem_tools hbuilt).storable hroom

/-- What follows from a write depends on the details of failures only in the details that it
tells. -/
theorem conclude_alike (deployer : Deployer) (job : Job) {finding same : Discovery}
    (hsame : SameFinding finding same) {reply other : Reply Unit} (halike : reply.Alike other)
    (patch : Patch) (store : Store) :
    undetailed (deployer.conclude job finding patch reply store).result =
        undetailed (deployer.conclude job same patch other store).result ∧
      (deployer.conclude job finding patch reply store).store =
        (deployer.conclude job same patch other store).store := by
  cases halike with
  | answered value =>
    simp only [Deployer.conclude, Deployer.pushFailure?]
    cases store.commit job.flow.id job.flow.version with
    | error failure => exact ⟨rfl, rfl⟩
    | ok marked => simp [undetailed, hsame.binding, hsame.degraded]
  | failed failure missing =>
    have hfails (failure : Failure) : ∃ detail,
        deployer.pushFailure? (.failed failure) = some (.remotePushFailed detail) := by
      rcases deployer.pushFailure?_cases (.failed failure) with ⟨hreply, -⟩ | ⟨-, hfailure⟩
      · cases hreply
      · exact hfailure
    obtain ⟨detail, hdetail⟩ := hfails failure
    obtain ⟨other, hother⟩ := hfails missing
    rw [Deployer.conclude, Deployer.conclude, hdetail, hother]
    exact ⟨rfl, rfl⟩

/-- Two deploys by themselves end alike: what they leave in the store is the same, and the
directories hold the same records. -/
structure SameEnd (root : Url) (held : σ → Directory) (run : Run σ) (same : Run Directory) :
    Prop where
  result : undetailed run.result = undetailed same.result
  store : run.store = same.store
  mirrors : Mirrors root (held run.remote) same.remote

theorem Follows.probed (h : Follows root respond held) (deployer : Deployer) {job : Job}
    (hid : root.Names job.agentId) {state : σ} {memory : Directory}
    (hmirrors : Mirrors root (held state) memory) :
    SameFinding (deployer.probed respond job state).discovery
        (deployer.probed Directory.responder job memory).discovery ∧
      Mirrors root (held (deployer.probed respond job state).remote) memory :=
  h.discover hmirrors hid

/-- The write of a deploy is replied to as in memory. -/
theorem Follows.written (h : Follows root respond held) (deployer : Deployer) {job : Job}
    (hid : root.Names job.agentId) {state : σ} {memory : Directory}
    (hmirrors : Mirrors root (held state) memory) :
    deployer.change respond job state = deployer.change Directory.responder job memory ∧
      (deployer.written respond job state).1.Alike
        (deployer.written Directory.responder job memory).1 ∧
      Mirrors root (held (deployer.written respond job state).2)
        (deployer.written Directory.responder job memory).2 := by
  obtain ⟨hfinding, hprobed⟩ := h.probed deployer hid hmirrors
  have hchange : deployer.change respond job state =
      deployer.change Directory.responder job memory := by
    rw [Deployer.change, Deployer.change, Deployer.patch, Deployer.patch, hfinding.existing]
  have hcallable : Callable root (.write
      (deployer.probed Directory.responder job memory).discovery.binding
      (deployer.change Directory.responder job memory)) := by
    refine ⟨names_binding hmirrors.servable hid _ _, ?_⟩
    rintro target patch ⟨⟩
    exact storable_of_mem_patch hmirrors.servable deployer job _
  have hwritten := h _ deployer.pushTimeoutMs.toNat _ memory hcallable hprobed
  rw [Deployer.written_eq_respond, Deployer.written, hchange, ← hfinding.binding]
  exact ⟨rfl, hwritten⟩

/-- A deploy goes over a responder as it goes in memory, if the agent of its flow can be
addressed. -/
theorem Follows.run (h : Follows root respond held) (deployer : Deployer) (client : Client)
    (flowId : String) (cancelled : Bool) {store : Store}
    (hlinked : ∀ job, Job.load store client flowId = .ok job → root.Names job.agentId) {state : σ}
    {memory : Directory} (hmirrors : Mirrors root (held state) memory) :
    SameEnd root held (deployer.run respond client flowId cancelled store state)
      (deployer.run Directory.responder client flowId cancelled store memory) := by
  cases hload : Job.load store client flowId with
  | error failure =>
    rw [Deployer.run, Deployer.run, Job.accept, hload]
    exact ⟨rfl, rfl, hmirrors⟩
  | ok job =>
    cases cancelled with
    | true =>
      rw [Deployer.run, Deployer.run, Job.accept, hload]
      exact ⟨rfl, rfl, hmirrors⟩
    | false =>
      have hid := hlinked job hload
      obtain ⟨hfinding, -⟩ := h.probed deployer hid hmirrors
      obtain ⟨hchange, hreply, hafter⟩ := h.written deployer hid hmirrors
      obtain ⟨entries, hrun⟩ := Deployer.exists_run_eq hload state rfl
      obtain ⟨others, hsame⟩ := Deployer.exists_run_eq hload memory rfl
      obtain ⟨hresult, hstore⟩ := conclude_alike deployer job hfinding hreply
        (deployer.change Directory.responder job memory) store
      rw [hrun, hsame, hchange]
      exact ⟨hresult, hstore, hafter⟩

/-! ## Sessions -/

/-- The agent that a flow is linked to, if there is one, can be addressed. -/
def Linkable (root : Url) (flow : Flow) : Prop :=
  ∀ agentId, flow.linkedAgent = some agentId → root.Names agentId

/-- Every flow of a store can be deployed over a service, as far as its link goes. -/
def AllLinkable (root : Url) (store : Store) : Prop :=
  ∀ flowId flow, store.get? flowId = some flow → Linkable root flow

theorem AllLinkable.insert {store : Store} (h : AllLinkable root store) {flow : Flow}
    (hflow : Linkable root flow) : AllLinkable root (store.insert flow) := by
  intro flowId found hfound
  rw [Store.get?_insert] at hfound
  split at hfound
  · obtain rfl := Option.some.inj hfound
    exact hflow
  · exact h flowId found hfound

theorem AllLinkable.run {store : Store} (h : AllLinkable root store) (deployer : Deployer)
    (client : Client) (flowId : String) (cancelled : Bool) (state : σ) :
    AllLinkable root (deployer.run respond client flowId cancelled store state).store := by
  have hcourse := deployer.course_run respond client flowId cancelled store state
  generalize deployer.run respond client flowId cancelled store state = run at hcourse
  cases hcourse with
  | rejected hload => exact h
  | cancelled hload hcancelled => exact h
  | unwritten hload hcancelled hreply => exact h
  | @deployed job entries hload hcancelled hreply =>
    -- A flow that is marked keeps its link.
    exact h.insert (h flowId job.flow (Job.load_eq_ok hload).1)

theorem AllLinkable.save {store after : Store} (h : AllLinkable root store)
    {clientId flowId : String} {nodes : List Node} {edges : List Edge} {flow : Flow}
    (hsave : store.save clientId flowId nodes edges = .ok (flow, after)) :
    AllLinkable root after := by
  rw [Store.save] at hsave
  cases howned : store.owned? clientId flowId with
  | none =>
    rw [howned] at hsave
    cases hsave
  | some found =>
    rw [howned] at hsave
    cases hsave
    have hfound : store.get? flowId = some found := (Option.filter_eq_some_iff.mp howned).1
    exact h.insert (h flowId found hfound)

/-- Two sessions are alike: the deploys ended in the same way, the flows are the same, and what the
one directory serves the other one holds. -/
structure SameSession (root : Url) (held : σ → Directory) (session : Session σ)
    (same : Session Directory) : Prop where
  results : session.results.map undetailed = same.results.map undetailed
  store : session.store = same.store
  mirrors : Mirrors root (held session.remote) same.remote
  linkable : AllLinkable root same.store

variable {session : Session σ} {same : Session Directory}

/-- An errand keeps sessions alike. -/
theorem Follows.perform (h : Follows root respond held) (hsame : SameSession root held session same)
    {errand : Errand} (hput : ∀ flow, errand = .put flow → Linkable root flow) :
    SameSession root held (session.perform respond errand)
      (same.perform Directory.responder errand) := by
  obtain ⟨store, state, results⟩ := session
  obtain ⟨sameStore, memory, sameResults⟩ := same
  obtain ⟨hresults, rfl, hmirrors, hlinkable⟩ := hsame
  cases errand with
  | deploy deployer client flowId cancelled =>
    have hlinked : ∀ job, Job.load store client flowId = .ok job → root.Names job.agentId := by
      intro job hload
      obtain ⟨hflow, -, -, hlinked, -⟩ := Job.load_eq_ok hload
      exact hlinkable flowId job.flow hflow job.agentId hlinked
    obtain ⟨hresult, hstore, hafter⟩ := h.run deployer client flowId cancelled hlinked hmirrors
    refine ⟨?_, hstore, hafter, hlinkable.run deployer client flowId cancelled memory⟩
    simp only [Session.perform, List.map_append, List.map_cons, List.map_nil]
    rw [hresults, hresult]
  | edit clientId flowId nodes edges =>
    simp only [Session.perform]
    cases hsave : store.save clientId flowId nodes edges with
    | error failure => exact ⟨hresults, rfl, hmirrors, hlinkable⟩
    | ok saved => exact ⟨hresults, rfl, hmirrors, hlinkable.save hsave⟩
  | put flow => exact ⟨hresults, rfl, hmirrors, hlinkable.insert (hput flow rfl)⟩

/-- Errands keep sessions alike, however many there are. -/
theorem Follows.performAll (h : Follows root respond held)
    (hsame : SameSession root held session same) {errands : List Errand}
    (hput : ∀ flow, .put flow ∈ errands → Linkable root flow) :
    SameSession root held (session.performAll respond errands)
      (same.performAll Directory.responder errands) := by
  induction errands generalizing session same with
  | nil => exact hsame
  | cons errand errands ih =>
    have hstep : SameSession root held (session.perform respond errand)
        (same.perform Directory.responder errand) := by
      apply h.perform hsame
      rintro flow rfl
      exact hput flow List.mem_cons_self
    exact ih hstep fun flow hflow => hput flow (List.mem_cons_of_mem errand hflow)

/-- A service and a directory in memory that start with the same records are interchangeable, as far
as ids are plain and records survive their own text: whatever is deployed and edited, the deploys end
in the same way, the flows stay the same, and so do the records. -/
theorem service_interchangeable {transport : Transport σ} {remote : Remote}
    (hreaches : remote.Reaches root) (hserves : Serves transport root held) {state : σ}
    {memory : Directory} (hrecords : (held state).SameRecords memory)
    (hfaultless : Directory.empty.SameFaults memory) (hservable : Servable root memory)
    {store : Store} (hstore : AllLinkable root store) {errands : List Errand}
    (hput : ∀ flow, .put flow ∈ errands → Linkable root flow) :
    let served := Session.performAll (remote.respond transport) ⟨store, state, []⟩ errands
    let kept := Session.performAll Directory.responder ⟨store, memory, []⟩ errands
    served.results.map undetailed = kept.results.map undetailed ∧ served.store = kept.store ∧
      (held served.remote).SameRecords kept.remote := by
  intro served kept
  have hfollows := follows_respond hreaches hserves
  have hsame : SameSession root held served kept :=
    hfollows.performAll ⟨rfl, rfl, ⟨hrecords, hfaultless, hservable⟩, hstore⟩ hput
  exact ⟨hsame.results, hsame.store, hsame.mirrors.records⟩

/-- The address `http://h/`. -/
def plainRoot : Url :=
  ⟨.http, .domain ["h"], none, [""], none, none⟩

theorem servable_webhookWorld : Servable plainRoot Rehearsal.World.webhookWorld.directory := by
  have hrecovers : Decoder.Recovers AgentRecord.decoder AgentRecord.toJson
      (.inline "a" [.new "custom" "x"]) := by
    refine AgentRecord.recovers_iff.mpr ⟨Members.spare_nil _, List.forall_mem_nil _, ?_⟩
    rintro engine ⟨⟩ tool htool
    obtain rfl := List.mem_singleton.mp htool
    exact (Tool.built_new "custom" "x").storable (by decide)
  have hagent : ∀ id record, Rehearsal.World.webhookWorld.directory.agent? id = some record →
      record = .inline "a" [.new "custom" "x"] := by
    intro id record hrecord
    change (Directory.empty.insertAgent (.inline "a" [.new "custom" "x"])).agent? id =
      some record at hrecord
    rw [Directory.insertAgent, Directory.agent?_setAgent] at hrecord
    split at hrecord
    · exact (Option.some.inj hrecord).symm
    · cases hrecord
  refine ⟨fun id record hrecord => ?_, nofun, fun id record llmId hrecord hengine => ?_⟩
  · rw [hagent id record hrecord]
    exact hrecovers
  · rw [hagent id record hrecord] at hengine
    cases hengine

theorem allLinkable_webhookWorld : AllLinkable plainRoot Rehearsal.World.webhookWorld.store := by
  have hempty : AllLinkable plainRoot .empty := nofun
  refine hempty.insert ?_
  rintro agentId ⟨⟩
  exact ⟨List.all_eq_true.mp (by decide), by decide +kernel⟩

/-- The rehearsed webhook, deployed, edited and deployed again, over a service. -/
theorem service_interchangeable_of_webhook :
    let world := Rehearsal.World.webhookWorld
    let errands : List Errand := [.deploy world.deployer ⟨"c", []⟩ "f" false,
      .edit "c" "f" [.ofKind "m" (.transfer (some "+1") none)] [],
      .deploy world.deployer ⟨"c", []⟩ "f" false]
    let served := Session.performAll ((Remote.mk "http://h" "k").respond (service plainRoot))
      ⟨world.store, world.directory, []⟩ errands
    let kept := Session.performAll Directory.responder ⟨world.store, world.directory, []⟩ errands
    served.results.map undetailed = kept.results.map undetailed ∧ served.store = kept.store ∧
      Directory.SameRecords served.remote kept.remote ∧
      kept.results.map Except.isOk = [true, true] := by
  intro world errands served kept
  have hreaches : (Remote.mk "http://h" "k").Reaches plainRoot :=
    ⟨by decide +kernel, rfl, rfl, by decide +kernel, by decide⟩
  have hput : ∀ flow, .put flow ∈ errands → Linkable plainRoot flow := by
    intro flow hflow
    simp [errands] at hflow
  have hrecords : world.directory.SameRecords world.directory := ⟨rfl, rfl⟩
  have hfaultless : Directory.empty.SameFaults world.directory := rfl
  obtain ⟨hresults, hflows, hsame⟩ := service_interchangeable hreaches (serves_service plainRoot)
    hrecords hfaultless servable_webhookWorld allLinkable_webhookWorld hput
  exact ⟨hresults, hflows, hsame, by decide +kernel⟩

end Http

end CallFlow
