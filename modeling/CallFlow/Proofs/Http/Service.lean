import CallFlow.Proofs.Agent.Directory
import CallFlow.Proofs.Agent.Recovery
import CallFlow.Proofs.Http.Address

/-!
# A service and a directory in memory

A service keeps records at their addresses: it shows them as JSON, and applies the changes that it is
sent.  Whoever calls it with ids that are plain, and with tools that a text can hold, is replied to
as by a directory in memory that holds the same records and has no faults.  The two differ in the
details of their failures only.
-/

namespace CallFlow

open Json

/-- Two directories hold the same records. -/
structure Directory.SameRecords (directory other : Directory) : Prop where
  agent? : other.agent? = directory.agent?
  llm? : other.llm? = directory.llm?

namespace Directory

variable {directory other : Directory} {patch : Patch} {target : Binding}

theorem SameRecords.exists_change? (h : directory.SameRecords other) {changed : Directory}
    (hchange : other.change? patch target = some changed) :
    ∃ before, directory.change? patch target = some before ∧ before.SameRecords changed := by
  cases target with
  | llmBound llmId =>
    obtain ⟨record, hrecord, rfl⟩ := Option.map_eq_some_iff.mp hchange
    rw [h.llm?] at hrecord
    refine ⟨directory.setLlm llmId (record.patched patch), ?_, h.agent?, ?_⟩
    · rw [change?, hrecord]
      rfl
    · funext id
      rw [llm?_setLlm, llm?_setLlm, h.llm?]
  | inline agentId =>
    obtain ⟨record, hrecord, rfl⟩ := Option.map_eq_some_iff.mp hchange
    rw [h.agent?] at hrecord
    refine ⟨directory.setAgent agentId (record.patched patch), ?_, ?_, h.llm?⟩
    · rw [change?, hrecord]
      rfl
    · funext id
      rw [agent?_setAgent, agent?_setAgent, h.agent?]

theorem SameRecords.change?_eq_none_iff (h : directory.SameRecords other) :
    directory.change? patch target = none ↔ other.change? patch target = none := by
  cases target with
  | llmBound llmId => rw [change?, change?, Option.map_eq_none_iff, Option.map_eq_none_iff, h.llm?]
  | inline agentId =>
    rw [change?, change?, Option.map_eq_none_iff, Option.map_eq_none_iff, h.agent?]

theorem SameFaults.trans {later : Directory} (h : directory.SameFaults other)
    (hlater : other.SameFaults later) : directory.SameFaults later := by
  rw [SameFaults] at h hlater ⊢
  rw [hlater, h]

end Directory

/-- Two replies tell the same, but for the failures that they may tell of. -/
inductive Reply.Alike {α : Type} : Reply α → Reply α → Prop
  | answered (value : α) : Alike (.answered value) (.answered value)
  | failed (failure other : Failure) : Alike (.failed failure) (.failed other)

/-- A reply tells of what was looked for: with it, if it was found, or by a failure. -/
inductive Reply.TellsOf {α : Type} : Option α → Reply α → Prop
  | found (value : α) : TellsOf (some value) (.answered value)
  | missing (failure : Failure) : TellsOf none (.failed failure)

/-- How many more containers may be opened in a tool where the record of a binding holds its
tools. -/
def Binding.room : Binding → Nat
  | .llmBound _ => 125
  | .inline _ => 124

namespace Http

variable {σ : Type} {transport : Transport σ} {root : Url} {held : σ → Directory} {remote : Remote}

/-! ## The service -/

/-- The text by which a service shows the record of a binding. -/
def recordText? (directory : Directory) : Binding → Option String
  | .inline agentId => (directory.agent? agentId).map fun record => compact record.toJson
  | .llmBound llmId => (directory.llm? llmId).map fun record => compact record.toJson

theorem recordText?_congr {directory other : Directory} (h : directory.SameRecords other) :
    recordText? directory = recordText? other := by
  funext target
  cases target with
  | inline agentId => rw [recordText?, recordText?, h.agent?]
  | llmBound llmId => rw [recordText?, recordText?, h.llm?]

/-- Requests reach a service that has the records of a directory below an address.  It shows what it
has, and changes it as a directory in memory does; of what it does not have it says so. -/
structure Serves (transport : Transport σ) (root : Url) (held : σ → Directory) : Prop where
  get : ∀ (request : Request) (limitMs : Nat) (state : σ) (target : Binding),
    request.method = .get → request.url = root.below (Remote.segments target) →
    ∃ response after, transport request limitMs state = (.response response, after) ∧
      (held state).SameRecords (held after) ∧
      match recordText? (held state) target with
      | some text => response = ⟨200, text⟩
      | none => response.status = 404
  patch : ∀ (request : Request) (limitMs : Nat) (state : σ) (target : Binding) (body : String)
      (patch : Patch),
    request.method = .patch → request.url = root.below (Remote.segments target) →
    request.body = some body → Decoder.ofText Patch.decoder body = .ok patch →
    ∃ response after, transport request limitMs state = (.response response, after) ∧
      match (held state).change? patch target with
      | some changed => response.status = 200 ∧ changed.SameRecords (held after)
      | none => response.status = 404 ∧ (held state).SameRecords (held after)

/-- The record that an address below a root stands for. -/
def target? (root url : Url) : Option Binding :=
  match url.path.drop root.path.dropLast.length with
  | ["agents", agentId] => some (.inline agentId)
  | ["llms", llmId] => some (.llmBound llmId)
  | _ => none

/-- A service that keeps its records in a directory, and takes no time. -/
def service (root : Url) : Transport Directory := fun request _ directory =>
  match target? root request.url, request.method with
  | some target, .get =>
    match recordText? directory target with
    | some text => (.response ⟨200, text⟩, directory)
    | none => (.response ⟨404, "not found"⟩, directory)
  | some target, .patch =>
    match request.body.map (Decoder.ofText Patch.decoder) with
    | some (.ok patch) =>
      match directory.change? patch target with
      | some changed => (.response ⟨200, ""⟩, changed)
      | none => (.response ⟨404, "not found"⟩, directory)
    | _ => (.response ⟨400, "bad request"⟩, directory)
  | none, _ => (.response ⟨404, "not found"⟩, directory)

theorem target?_below (root : Url) (target : Binding) :
    target? root (root.below (Remote.segments target)) = some target := by
  rw [target?, Url.below, List.drop_left]
  cases target <;> rfl

/-- There is such a service for every address. -/
theorem serves_service (root : Url) : Serves (service root) root fun directory => directory := by
  constructor
  · intro request limitMs directory target hmethod hurl
    rw [service, hurl, target?_below, hmethod]
    dsimp only
    cases recordText? directory target with
    | some text => exact ⟨_, _, rfl, ⟨rfl, rfl⟩, rfl⟩
    | none => exact ⟨_, _, rfl, ⟨rfl, rfl⟩, rfl⟩
  · intro request limitMs directory target body patch hmethod hurl hbody hread
    rw [service, hurl, target?_below, hmethod, hbody, Option.map_some, hread]
    dsimp only
    cases directory.change? patch target with
    | some changed => exact ⟨_, _, rfl, rfl, ⟨rfl, rfl⟩⟩
    | none => exact ⟨_, _, rfl, rfl, ⟨rfl, rfl⟩⟩

/-! ## The records -/

/-- Every record of a directory survives its own text, and the language models that agents refer to
can be addressed. -/
structure Servable (root : Url) (directory : Directory) : Prop where
  agent : ∀ agentId record, directory.agent? agentId = some record →
    Decoder.Recovers AgentRecord.decoder AgentRecord.toJson record
  llm : ∀ llmId record, directory.llm? llmId = some record →
    Decoder.Recovers LlmRecord.decoder LlmRecord.toJson record
  reference : ∀ agentId record llmId, directory.agent? agentId = some record →
    record.engine = some (.llmRef llmId) → root.Names llmId

theorem Servable.storable {directory : Directory} (h : Servable root directory) {target : Binding}
    {tools : List Tool} (htools : directory.toolsAt? target = some tools) :
    ∀ tool ∈ tools, tool.Storable target.room := by
  cases target with
  | llmBound llmId =>
    obtain ⟨record, hrecord, rfl⟩ := Option.map_eq_some_iff.mp htools
    exact (LlmRecord.recovers_iff.mp (h.llm llmId record hrecord)).2.2
  | inline agentId =>
    obtain ⟨record, hrecord, hown⟩ := Option.bind_eq_some_iff.mp htools
    have hengine := (AgentRecord.recovers_iff.mp (h.agent agentId record hrecord)).2.2
    rw [AgentRecord.ownTools?] at hown
    split at hown
    · next tools' script hinline =>
      obtain rfl := Option.some.inj hown
      exact hengine _ hinline
    · cases hown

/-- A change whose tools may be stored in its target leaves the records as they must be. -/
theorem Servable.change? {directory changed : Directory} (h : Servable root directory)
    {target : Binding} {patch : Patch} (hpatch : ∀ tool ∈ patch.tools, tool.Storable target.room)
    (hchange : directory.change? patch target = some changed) : Servable root changed := by
  cases target with
  | llmBound llmId =>
    obtain ⟨record, hrecord, rfl⟩ := Option.map_eq_some_iff.mp hchange
    refine ⟨h.agent, fun id found hfound => ?_, h.reference⟩
    rw [Directory.llm?_setLlm] at hfound
    split at hfound
    · obtain rfl := Option.some.inj hfound
      exact LlmRecord.recovers_patched (h.llm llmId record hrecord) hpatch
    · exact h.llm id found hfound
  | inline agentId =>
    obtain ⟨record, hrecord, rfl⟩ := Option.map_eq_some_iff.mp hchange
    refine ⟨fun id found hfound => ?_, h.llm, fun id found llmId hfound hengine => ?_⟩
    · rw [Directory.agent?_setAgent] at hfound
      split at hfound
      · obtain rfl := Option.some.inj hfound
        exact AgentRecord.recovers_patched (h.agent agentId record hrecord) hpatch
      · exact h.agent id found hfound
    · rw [Directory.agent?_setAgent] at hfound
      split at hfound
      · -- The changed agent carries its tools itself, and refers to nothing.
        obtain rfl := Option.some.inj hfound
        cases hengine
      · exact h.reference id found llmId hfound hengine

/-- What a service has is what a directory in memory holds that has no faults. -/
structure Mirrors (root : Url) (served memory : Directory) : Prop where
  records : served.SameRecords memory
  faultless : Directory.empty.SameFaults memory
  servable : Servable root memory

/-! ## One call -/

/-- A call that can be made to a service: its record can be addressed, and the tools that it writes
may be stored there. -/
structure Callable (root : Url) (call : Call) : Prop where
  id : root.Names call.recordId
  tools : ∀ target patch, call = .write target patch →
    ∀ tool ∈ patch.tools, tool.Storable target.room

/-- A responder is as good as the directory in memory that it mirrors. -/
def Follows (root : Url) (respond : Responder σ) (held : σ → Directory) : Prop :=
  ∀ (call : Call) (limitMs : Nat) (state : σ) (memory : Directory), Callable root call →
    Mirrors root (held state) memory →
    (respond call limitMs state).1.Alike (Directory.responder call limitMs memory).1 ∧
      Mirrors root (held (respond call limitMs state).2)
        (Directory.responder call limitMs memory).2

/-- Without faults every call is carried out at once. -/
theorem responder_eq_complete {memory : Directory} (h : Directory.empty.SameFaults memory)
    (call : Call) (limitMs : Nat) :
    Directory.responder call limitMs memory = memory.complete call := by
  have hbegin : memory.begin call (some limitMs) = ⟨0, .completes⟩ := by
    rw [h.begin_eq]
    cases call <;> simp [Directory.begin, Directory.delayMs, Directory.empty]
  rw [Directory.responder, Directory.respond, hbegin]
  rfl

/-- A read that works tells of what there is. -/
theorem tellsOf_readRecord {α : Type} (kind id : String) (found : Option α) :
    (Reply.ofExcept (Directory.readRecord kind false id found)).TellsOf found := by
  cases found with
  | some record => exact .found record
  | none => exact .missing _

/-- A directory without faults tells of the record that a read is about. -/
theorem tellsOf_complete {memory : Directory} (h : Directory.empty.SameFaults memory) {call : Call}
    (hread : call.isWrite = false) :
    (memory.complete call).1.TellsOf (memory.held? call) ∧ (memory.complete call).2 = memory := by
  cases call with
  | write target patch => cases hread
  | fetchAgent agentId =>
    have hworks : memory.failAgentReads = false := by rw [h]; rfl
    rw [Directory.complete, Directory.readAgent, hworks]
    exact ⟨tellsOf_readRecord _ _ _, rfl⟩
  | fetchLlm llmId =>
    have hworks : memory.failLlmReads = false := by rw [h]; rfl
    rw [Directory.complete, Directory.readLlm, hworks]
    exact ⟨tellsOf_readRecord _ _ _, rfl⟩

/-- A write to a directory without faults changes the record of its target, if there is one. -/
theorem complete_write {memory : Directory} (h : Directory.empty.SameFaults memory)
    (target : Binding) (patch : Patch) :
    (memory.change? patch target = none ∧
      ∃ missing, memory.complete (.write target patch) = (.failed missing, memory)) ∨
    ∃ changed, memory.change? patch target = some changed ∧
      memory.complete (.write target patch) =
        (.answered (), { changed with pushes := changed.pushes ++ [⟨target, patch⟩] }) := by
  have hworks : memory.failPushes = false := by rw [h]; rfl
  rw [Directory.complete, Directory.write, hworks]
  cases memory.change? patch target with
  | none => exact .inl ⟨rfl, _, rfl⟩
  | some changed => exact .inr ⟨changed, rfl, rfl⟩

/-- The response to a read tells what there is, as a reply does. -/
theorem readBody_alike {α : Type} {decoder : Decoder α} {toJson : α → Json} {found : Option α}
    {response : Response}
    (hrecovers : ∀ value, found = some value → Decoder.Recovers decoder toJson value)
    (hresponse : match found.map fun value => compact (toJson value) with
      | some text => response = ⟨200, text⟩
      | none => response.status = 404) (call : Call) {reply : Reply α}
    (hreply : reply.TellsOf found) :
    (if isSuccess response.status then Remote.readBody call decoder response.body
      else .failed (Remote.refused call response)).Alike reply := by
  cases hreply with
  | found value =>
    obtain rfl : response = ⟨200, compact (toJson value)⟩ := hresponse
    have hsuccess : isSuccess 200 = true := rfl
    rw [if_pos hsuccess, Remote.readBody, (hrecovers value rfl).reads]
    exact .answered value
  | missing failure =>
    have hstatus : isSuccess response.status = false := by
      rw [show response.status = 404 from hresponse]
      rfl
    rw [if_neg (by simp [hstatus])]
    exact .failed _ _

theorem respond_eq (hreaches : remote.Reaches root) {call : Call} (hid : root.Names call.recordId)
    {limitMs : Nat} {state after : σ} {response : Response}
    (hsend : transport ⟨Remote.method call, root.below (Remote.segments (Remote.record call)),
      "Bearer " ++ remote.apiKey, Remote.requestBody call⟩ limitMs state =
        (.response response, after)) :
    remote.respond transport call limitMs state =
      (Remote.readResponse response call, after) := by
  rw [Remote.respond, hreaches.request_eq hid]
  dsimp only
  rw [hsend]
  rfl

theorem Mirrors.of_sameRecords {served after memory : Directory}
    (h : Mirrors root served memory) (hsame : served.SameRecords after) :
    Mirrors root after memory :=
  ⟨⟨h.records.agent?.trans hsame.agent?.symm, h.records.llm?.trans hsame.llm?.symm⟩,
    h.faultless, h.servable⟩

section Calls

variable (hreaches : remote.Reaches root) (hserves : Serves transport root held) (limitMs : Nat)
  {state : σ} {memory : Directory} (hmirrors : Mirrors root (held state) memory)

include hreaches hserves hmirrors

/-- A read tells what the directory in memory tells, since its record survives the text.  Which record
it is about, and how that is written and read, may differ from read to read. -/
theorem respond_read {call : Call} {decoder : Decoder call.Value} {toJson : call.Value → Json}
    (hread : call.isWrite = false) (hid : root.Names call.recordId)
    (hshown : recordText? memory (Remote.record call) =
      (memory.held? call).map fun value => compact (toJson value))
    (hrecovers : ∀ value, memory.held? call = some value →
      Decoder.Recovers decoder toJson value)
    (hreads : ∀ response, Remote.readResponse response call =
      if isSuccess response.status then Remote.readBody call decoder response.body
      else .failed (Remote.refused call response)) :
    (remote.respond transport call limitMs state).1.Alike (memory.complete call).1 ∧
      Mirrors root (held (remote.respond transport call limitMs state).2)
        (memory.complete call).2 := by
  have hmethod : Remote.method call = .get := by
    cases call with
    | write target patch => cases hread
    | fetchAgent agentId => rfl
    | fetchLlm llmId => rfl
  obtain ⟨response, after, hsend, hsame, hresponse⟩ := hserves.get
    ⟨Remote.method call, root.below (Remote.segments (Remote.record call)),
      "Bearer " ++ remote.apiKey, Remote.requestBody call⟩
    limitMs state (Remote.record call) hmethod rfl
  obtain ⟨htells, hstays⟩ := tellsOf_complete hmirrors.faultless hread
  rw [recordText?_congr hmirrors.records, hshown] at hresponse
  rw [respond_eq hreaches hid hsend, hreads, hstays]
  exact ⟨readBody_alike hrecovers hresponse call htells, hmirrors.of_sameRecords hsame⟩

/-- A change arrives as it was sent, since its tools survive the text. -/
theorem respond_write {target : Binding} {patch : Patch}
    (hid : root.Names (Call.write target patch).recordId)
    (hpatch : ∀ tool ∈ patch.tools, tool.Storable target.room) :
    (remote.respond transport (.write target patch) limitMs state).1.Alike
        (memory.complete (.write target patch)).1 ∧
      Mirrors root (held (remote.respond transport (.write target patch) limitMs state).2)
        (memory.complete (.write target patch)).2 := by
  have hroom : target.room ≤ 125 := by cases target <;> simp [Binding.room]
  have hrecovers : Decoder.Recovers Patch.decoder Patch.toJson patch :=
    Patch.recovers_iff.mpr fun tool htool => (hpatch tool htool).mono hroom
  obtain ⟨response, after, hsend, hresponse⟩ := hserves.patch
    ⟨.patch, root.below (Remote.segments target), "Bearer " ++ remote.apiKey,
      some (compact patch.toJson)⟩
    limitMs state target _ patch rfl rfl rfl hrecovers.reads
  rw [respond_eq hreaches hid hsend]
  rcases complete_write hmirrors.faultless target patch with
    ⟨hnone, missing, hcomplete⟩ | ⟨changed, hchange, hcomplete⟩
  · rw [hmirrors.records.change?_eq_none_iff.mpr hnone] at hresponse
    have hrefused : Remote.readResponse response (.write target patch) =
        .failed (Remote.refused (.write target patch) response) := by
      unfold Remote.readResponse
      rw [hresponse.1]
      rfl
    rw [hcomplete, hrefused]
    exact ⟨.failed _ _, hmirrors.of_sameRecords hresponse.2⟩
  · obtain ⟨served, hserved, hsame⟩ := hmirrors.records.exists_change? hchange
    rw [hserved] at hresponse
    have hanswered : Remote.readResponse response (.write target patch) = .answered () := by
      unfold Remote.readResponse
      rw [hresponse.1]
      rfl
    have hkept := hmirrors.servable.change? hpatch hchange
    rw [hcomplete, hanswered]
    refine ⟨.answered _, ⟨?_, ?_⟩, ?_, ⟨hkept.agent, hkept.llm, hkept.reference⟩⟩
    · exact hsame.agent?.trans hresponse.2.agent?.symm
    · exact hsame.llm?.trans hresponse.2.llm?.symm
    · exact hmirrors.faultless.trans (Directory.sameFaults_of_change? hchange _)

end Calls

/-- Through its service a directory is called as if it were in memory. -/
theorem follows_respond (hreaches : remote.Reaches root) (hserves : Serves transport root held) :
    Follows root (remote.respond transport) held := by
  intro call limitMs state memory hcallable hmirrors
  rw [responder_eq_complete hmirrors.faultless]
  cases call with
  | fetchAgent agentId =>
    exact respond_read hreaches hserves limitMs hmirrors rfl hcallable.id rfl
      (hmirrors.servable.agent agentId) fun _ => rfl
  | fetchLlm llmId =>
    exact respond_read hreaches hserves limitMs hmirrors rfl hcallable.id rfl
      (hmirrors.servable.llm llmId) fun _ => rfl
  | write target patch =>
    exact respond_write hreaches hserves limitMs hmirrors hcallable.id
      (hcallable.tools target patch rfl)

end Http

end CallFlow
