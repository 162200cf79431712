import CallFlow.Agent.Responder
import CallFlow.Timer

/-!
# The directory in memory

A directory of agents that is kept in memory, for rehearsals and dry runs.  A write changes the
records, so that a later discovery sees it, and is noted.  Calls may be made to take time, to fail,
and to be refused at once: the delay of a call is the one at its beginning, and the records and the
failure switches are those at its end.
-/

namespace CallFlow

/-- An accepted write. -/
structure Push where
  target : Binding
  patch : Patch

/-- A directory kept in memory. -/
structure Directory where
  agent? : String → Option AgentRecord
  llm? : String → Option LlmRecord
  /-- The accepted writes, oldest first. -/
  pushes : List Push
  failAgentReads : Bool
  failLlmReads : Bool
  failPushes : Bool
  readDelayMs : Nat
  pushDelayMs : Nat
  /-- The failure by which an operation is refused at once. -/
  refusal? : Operation → Option Failure

/-- How a call that has begun will end. -/
inductive Ending where
  /-- The directory carries it out. -/
  | completes
  /-- The caller gives it up. -/
  | dropped
  | refused (failure : Failure)

/-- The time until a call ends, and how it ends then. -/
structure Wait where
  ms : Nat
  ending : Ending

namespace Directory

/-- The directory without records. -/
def empty : Directory :=
  ⟨fun _ => none, fun _ => none, [], false, false, false, 0, 0, fun _ => none⟩

/-- The directory with an agent under an id. -/
def setAgent (directory : Directory) (agentId : String) (record : AgentRecord) : Directory :=
  { directory with agent? := fun id => if id = agentId then some record else directory.agent? id }

/-- The directory with a language model under an id. -/
def setLlm (directory : Directory) (llmId : String) (record : LlmRecord) : Directory :=
  { directory with llm? := fun id => if id = llmId then some record else directory.llm? id }

/-- An agent that was set is found under its id, and the others stay as they were. -/
@[simp]
theorem agent?_setAgent (directory : Directory) (agentId id : String) (record : AgentRecord) :
    (directory.setAgent agentId record).agent? id =
      if id = agentId then some record else directory.agent? id :=
  rfl

/-- A language model that was set is found under its id, and the others stay as they were. -/
@[simp]
theorem llm?_setLlm (directory : Directory) (llmId id : String) (record : LlmRecord) :
    (directory.setLlm llmId record).llm? id =
      if id = llmId then some record else directory.llm? id :=
  rfl

/-- Puts an agent in, in the place of another with its id. -/
def insertAgent (directory : Directory) (record : AgentRecord) : Directory :=
  directory.setAgent record.agentId record

/-- Puts a language model in, in the place of another with its id. -/
def insertLlm (directory : Directory) (record : LlmRecord) : Directory :=
  directory.setLlm record.llmId record

/-- The directory with an operation refused by a failure, or no longer refused. -/
def setRefusal (directory : Directory) (operation : Operation) (failure : Option Failure) :
    Directory :=
  { directory with
    refusal? := fun other => if other = operation then failure else directory.refusal? other }

/-- Reads a record of a kind, given what there is under its id and whether such reads fail. -/
def readRecord {α : Type} (kind : String) (fails : Bool) (id : String) (found : Option α) :
    Except Failure α :=
  if fails then .error (.remoteDiscovery (kind ++ " read failed"))
  else
    match found with
    | some record => .ok record
    | none => .error (.remoteDiscovery (kind ++ " `" ++ id ++ "` not found"))

/-- A record is read if reads work and it is there. -/
theorem readRecord_eq_ok_iff {α : Type} {kind id : String} {fails : Bool} {found : Option α}
    {record : α} :
    readRecord kind fails id found = .ok record ↔ fails = false ∧ found = some record := by
  cases fails <;> cases found <;> simp [readRecord]

/-- Reads an agent. -/
def readAgent (directory : Directory) (agentId : String) : Except Failure AgentRecord :=
  readRecord "agent" directory.failAgentReads agentId (directory.agent? agentId)

/-- Reads a language model. -/
def readLlm (directory : Directory) (llmId : String) : Except Failure LlmRecord :=
  readRecord "llm" directory.failLlmReads llmId (directory.llm? llmId)

/-- Changes the record of a binding, if there is one. -/
def change? (directory : Directory) (patch : Patch) : Binding → Option Directory
  | .llmBound llmId =>
    (directory.llm? llmId).map fun record => directory.setLlm llmId (record.patched patch)
  | .inline agentId =>
    (directory.agent? agentId).map fun record => directory.setAgent agentId (record.patched patch)

/-- The failure of a write whose target does not exist. -/
def targetMissing : Binding → Failure
  | .llmBound llmId => .remotePushFailed ("llm `" ++ llmId ++ "` not found")
  | .inline agentId => .remotePushFailed ("agent `" ++ agentId ++ "` not found")

/-- Writes a change and notes it. -/
def write (directory : Directory) (target : Binding) (patch : Patch) :
    Except Failure Directory :=
  if directory.failPushes then
    .error (.remotePushFailed "remote rejected the configuration update")
  else
    match directory.change? patch target with
    | some changed => .ok { changed with pushes := changed.pushes ++ [⟨target, patch⟩] }
    | none => .error (targetMissing target)

/-- The time that a call takes. -/
def delayMs (directory : Directory) : Call → Nat
  | .write _ _ => Timer.waitMs directory.pushDelayMs
  | _ => Timer.waitMs directory.readDelayMs

/-- Begins a call.  A call that takes as long as its limit is still in time. -/
def begin (directory : Directory) (call : Call) (limitMs : Option Nat) : Wait :=
  match directory.refusal? call.operation with
  | some failure => ⟨0, .refused failure⟩
  | none =>
    let delay := directory.delayMs call
    match limitMs with
    | some limit => if limit < delay then ⟨limit, .dropped⟩ else ⟨delay, .completes⟩
    | none => ⟨delay, .completes⟩

/-- Carries out a call. -/
def complete (directory : Directory) : (call : Call) → Reply call.Value × Directory
  | .fetchAgent agentId => (.ofExcept (directory.readAgent agentId), directory)
  | .fetchLlm llmId => (.ofExcept (directory.readLlm llmId), directory)
  | .write target patch =>
    match directory.write target patch with
    | .ok changed => (.answered (), changed)
    | .error failure => (.failed failure, directory)

/-- Ends a call. -/
def settle (directory : Directory) (call : Call) : Ending → Reply call.Value × Directory
  | .completes => directory.complete call
  | .dropped => (.timedOut, directory)
  | .refused failure => (.failed failure, directory)

/-- Begins and ends a call, with nothing else going on. -/
def respond (directory : Directory) (call : Call) (limitMs : Option Nat) :
    Reply call.Value × Directory :=
  directory.settle call (directory.begin call limitMs).ending

/-- The directory as one meets it who shares it with nobody. -/
def responder : Responder Directory :=
  fun call limitMs directory => directory.respond call (some limitMs)

end Directory

end CallFlow
