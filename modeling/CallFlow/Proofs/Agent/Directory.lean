import CallFlow.Agent.Directory
import CallFlow.Proofs.Agent.Discovery

/-!
# Reads and writes of the directory in memory

A read leaves the directory as it is and answers with the record, if it answers.  A write that is
acknowledged replaces the script and the tools of the record that it is addressed to, changes
nothing else of the records, and is noted behind the writes before it.  So a discovery that does not
degrade finds the tools of the very record that a write to its binding rewrites.
-/

namespace CallFlow

theorem Reply.ofExcept_eq_answered_iff {α : Type} {result : Except Failure α} {value : α} :
    Reply.ofExcept result = .answered value ↔ result = .ok value := by
  cases result <;> simp [Reply.ofExcept]

/-- The tools that an agent carries itself. -/
def AgentRecord.ownTools? (record : AgentRecord) : Option (List Tool) :=
  match record.engine with
  | some (.inline tools _) => some tools
  | _ => none

namespace Directory

/-- The tools of the record of a binding. -/
def toolsAt? (directory : Directory) : Binding → Option (List Tool)
  | .llmBound llmId => (directory.llm? llmId).map LlmRecord.tools
  | .inline agentId => (directory.agent? agentId).bind AgentRecord.ownTools?

/-- The binding that the record of an agent gives it. -/
def bindingOf? (directory : Directory) (agentId : String) : Option Binding :=
  match (directory.agent? agentId).bind AgentRecord.engine with
  | some (.inline _ _) => some (.inline agentId)
  | some (.llmRef llmId) => some (.llmBound llmId)
  | none => none

/-- What an accepted write leaves behind: its target has the script and the tools of the change next
to the members that it had, every other record is as it was, and the write is noted last. -/
structure Rewritten (before after : Directory) (target : Binding) (patch : Patch) : Prop where
  llm : ∀ llmId, target = .llmBound llmId → ∃ record, before.llm? llmId = some record ∧
    after.llm? llmId = some ⟨record.llmId, patch.tools, some patch.script, record.extra⟩
  agent : ∀ agentId, target = .inline agentId → ∃ record, before.agent? agentId = some record ∧
    after.agent? agentId =
      some ⟨record.agentId, some (.inline patch.tools (some patch.script)), record.extra⟩
  otherLlms : ∀ llmId, target ≠ .llmBound llmId → after.llm? llmId = before.llm? llmId
  otherAgents : ∀ agentId, target ≠ .inline agentId →
    after.agent? agentId = before.agent? agentId
  noted : after.pushes = before.pushes ++ [⟨target, patch⟩]

/-! ## One call -/

/-- However a read ends, the directory is as it was. -/
theorem settle_of_not_isWrite (directory : Directory) {call : Call} (hread : call.isWrite = false)
    (ending : Ending) : (directory.settle call ending).2 = directory := by
  cases call with
  | write target patch => cases hread
  | fetchAgent agentId => cases ending <;> rfl
  | fetchLlm llmId => cases ending <;> rfl

/-- A call that is answered was carried out. -/
theorem completes_of_answered {directory : Directory} {call : Call} {ending : Ending}
    {value : call.Value} (h : (directory.settle call ending).1 = .answered value) :
    ending = .completes := by
  cases ending with
  | completes => rfl
  | dropped => cases h
  | refused failure => cases h

theorem agent?_of_answered {directory : Directory} {agentId : String} {ending : Ending}
    {record : AgentRecord}
    (h : (directory.settle (.fetchAgent agentId) ending).1 = .answered record) :
    directory.agent? agentId = some record := by
  obtain rfl := completes_of_answered h
  have hread : directory.readAgent agentId = .ok record := Reply.ofExcept_eq_answered_iff.mp h
  exact (readRecord_eq_ok_iff.mp hread).2

theorem llm?_of_answered {directory : Directory} {llmId : String} {ending : Ending}
    {record : LlmRecord}
    (h : (directory.settle (.fetchLlm llmId) ending).1 = .answered record) :
    directory.llm? llmId = some record := by
  obtain rfl := completes_of_answered h
  have hread : directory.readLlm llmId = .ok record := Reply.ofExcept_eq_answered_iff.mp h
  exact (readRecord_eq_ok_iff.mp hread).2

theorem rewritten_of_change? {directory changed : Directory} {target : Binding} {patch : Patch}
    (h : directory.change? patch target = some changed) :
    directory.Rewritten { changed with pushes := changed.pushes ++ [⟨target, patch⟩] } target
      patch := by
  cases target with
  | llmBound llmId =>
    obtain ⟨record, hrecord, rfl⟩ := Option.map_eq_some_iff.mp h
    refine ⟨?_, nofun, ?_, fun _ _ => rfl, rfl⟩
    · rintro other ⟨⟩
      exact ⟨record, hrecord, by simp [LlmRecord.patched]⟩
    · intro other hother
      have hne : other ≠ llmId := fun hsame => hother (hsame ▸ rfl)
      simp [hne]
  | inline agentId =>
    obtain ⟨record, hrecord, rfl⟩ := Option.map_eq_some_iff.mp h
    refine ⟨nofun, ?_, fun _ _ => rfl, ?_, rfl⟩
    · rintro other ⟨⟩
      exact ⟨record, hrecord, by simp [AgentRecord.patched]⟩
    · intro other hother
      have hne : other ≠ agentId := fun hsame => hother (hsame ▸ rfl)
      simp [hne]

theorem write_eq_ok_iff {directory after : Directory} {target : Binding} {patch : Patch} :
    directory.write target patch = .ok after ↔ directory.failPushes = false ∧
      ∃ changed, directory.change? patch target = some changed ∧
        after = { changed with pushes := changed.pushes ++ [⟨target, patch⟩] } := by
  rw [write]
  by_cases hfails : directory.failPushes = true
  · simp [hfails]
  · have hworks : directory.failPushes = false := by simpa using hfails
    rw [if_neg hfails]
    cases hchange : directory.change? patch target with
    | none => simp
    | some changed => simp [hworks, eq_comm]

/-- A write is acknowledged and rewrites the directory, or it leaves the directory as it is. -/
theorem settle_write_cases (directory : Directory) (target : Binding) (patch : Patch)
    (ending : Ending) :
    ((directory.settle (.write target patch) ending).1 = .answered () ∧
      directory.Rewritten (directory.settle (.write target patch) ending).2 target patch) ∨
    ((directory.settle (.write target patch) ending).1 ≠ .answered () ∧
      (directory.settle (.write target patch) ending).2 = directory) := by
  cases ending with
  | completes =>
    rw [settle, complete]
    cases hwrite : directory.write target patch with
    | ok after =>
      obtain ⟨-, changed, hchange, rfl⟩ := write_eq_ok_iff.mp hwrite
      exact .inl ⟨rfl, rewritten_of_change? hchange⟩
    | error failure => exact .inr ⟨nofun, rfl⟩
  | dropped => exact .inr ⟨nofun, rfl⟩
  | refused failure => exact .inr ⟨nofun, rfl⟩

theorem rewritten_of_respond {directory : Directory} {target : Binding} {patch : Patch}
    {limitMs : Option Nat}
    (h : (directory.respond (.write target patch) limitMs).1 = .answered ()) :
    directory.Rewritten (directory.respond (.write target patch) limitMs).2 target patch := by
  rcases directory.settle_write_cases target patch
      (directory.begin (.write target patch) limitMs).ending with ⟨-, hrewritten⟩ | ⟨hother, -⟩
  · exact hrewritten
  · exact absurd h hother

/-! ## Faults -/

/-- The directory differs from another one at most in its records and in the writes that it has
noted: its faults, its delays and what it refuses are the same. -/
def SameFaults (directory other : Directory) : Prop :=
  other = { directory with agent? := other.agent?, llm? := other.llm?, pushes := other.pushes }

theorem sameFaults_of_change? {directory changed : Directory} {target : Binding} {patch : Patch}
    (h : directory.change? patch target = some changed) (pushes : List Push) :
    directory.SameFaults { changed with pushes := pushes } := by
  cases target with
  | llmBound llmId =>
    obtain ⟨record, -, rfl⟩ := Option.map_eq_some_iff.mp h
    rfl
  | inline agentId =>
    obtain ⟨record, -, rfl⟩ := Option.map_eq_some_iff.mp h
    rfl

/-- However a write ends, it leaves the faults alone. -/
theorem sameFaults_settle_write (directory : Directory) (target : Binding) (patch : Patch)
    (ending : Ending) :
    directory.SameFaults (directory.settle (.write target patch) ending).2 := by
  cases ending with
  | completes =>
    rw [settle, complete]
    cases hwrite : directory.write target patch with
    | ok after =>
      obtain ⟨-, changed, hchange, rfl⟩ := write_eq_ok_iff.mp hwrite
      exact sameFaults_of_change? hchange _
    | error failure => rfl
  | dropped => rfl
  | refused failure => rfl

/-- How a call will end is told by the faults and delays when it begins. -/
theorem SameFaults.begin_eq {directory other : Directory} (h : directory.SameFaults other)
    (call : Call) (limitMs : Option Nat) :
    other.begin call limitMs = directory.begin call limitMs := by
  rw [h]
  cases call <;> rfl

/-- The record that a read is about. -/
def held? (directory : Directory) : (call : Call) → Option call.Value
  | .fetchAgent agentId => directory.agent? agentId
  | .fetchLlm llmId => directory.llm? llmId
  | .write _ _ => none

/-- Reads of two records that are there are both answered, or both end in the same other way. -/
theorem readRecord_again {α : Type} (kind : String) (fails : Bool) (id : String)
    (before after : α) :
    (Reply.ofExcept (readRecord kind fails id (some before)) = .answered before ∧
      Reply.ofExcept (readRecord kind fails id (some after)) = .answered after) ∨
    (Reply.ofExcept (readRecord kind fails id (some after)) =
        Reply.ofExcept (readRecord kind fails id (some before)) ∧
      ∀ value, Reply.ofExcept (readRecord kind fails id (some before)) ≠ .answered value) := by
  cases fails with
  | false => exact .inl ⟨rfl, rfl⟩
  | true => exact .inr ⟨rfl, nofun⟩

/-- Where the faults are the same, a read of a record that is there is answered in both directories
or ends in both in the same other way. -/
theorem SameFaults.respond_cases {directory other : Directory} (h : directory.SameFaults other)
    (call : Call) {before after : call.Value} (hbefore : directory.held? call = some before)
    (hafter : other.held? call = some after) (limitMs : Option Nat) :
    ((directory.respond call limitMs).1 = .answered before ∧
      (other.respond call limitMs).1 = .answered after) ∨
    ((other.respond call limitMs).1 = (directory.respond call limitMs).1 ∧
      ∀ value, (directory.respond call limitMs).1 ≠ .answered value) := by
  rw [respond, respond, h.begin_eq]
  cases (directory.begin call limitMs).ending with
  | dropped => exact .inr ⟨rfl, nofun⟩
  | refused failure => exact .inr ⟨rfl, nofun⟩
  | completes =>
    cases call with
    | write target patch => cases hbefore
    | fetchAgent agentId =>
      have hfails : other.failAgentReads = directory.failAgentReads := by rw [h]
      change directory.agent? agentId = some before at hbefore
      change other.agent? agentId = some after at hafter
      simp only [settle, complete, readAgent, hfails, hbefore, hafter]
      exact readRecord_again "agent" _ agentId before after
    | fetchLlm llmId =>
      have hfails : other.failLlmReads = directory.failLlmReads := by rw [h]
      change directory.llm? llmId = some before at hbefore
      change other.llm? llmId = some after at hafter
      simp only [settle, complete, readLlm, hfails, hbefore, hafter]
      exact readRecord_again "llm" _ llmId before after

/-! ## The target of a write -/

/-- A write that was acknowledged is acknowledged again where the faults are the same and its target
is still there. -/
theorem SameFaults.answered_again {directory other : Directory} (h : directory.SameFaults other)
    {target : Binding} {patch : Patch} {limitMs : Option Nat}
    (hanswered : (directory.respond (.write target patch) limitMs).1 = .answered ())
    (hthere : (other.change? patch target).isSome) :
    (other.respond (.write target patch) limitMs).1 = .answered () := by
  rw [respond] at hanswered ⊢
  rw [h.begin_eq]
  have hcompletes := completes_of_answered hanswered
  rw [hcompletes] at hanswered ⊢
  obtain ⟨changed, hchange⟩ := Option.isSome_iff_exists.mp hthere
  have hworks : other.failPushes = false := by
    rw [settle, complete] at hanswered
    cases hwrite : directory.write target patch with
    | error failure =>
      rw [hwrite] at hanswered
      cases hanswered
    | ok after =>
      rw [h]
      exact (write_eq_ok_iff.mp hwrite).1
  have hwrite := write_eq_ok_iff.mpr ⟨hworks, changed, hchange, rfl⟩
  rw [settle, complete, hwrite]

theorem isSome_change?_of_rewritten {before after : Directory} {target : Binding} {patch : Patch}
    (h : before.Rewritten after target patch) : (after.change? patch target).isSome := by
  cases target with
  | llmBound llmId =>
    obtain ⟨record, -, hafter⟩ := h.llm llmId rfl
    rw [change?, hafter]
    rfl
  | inline agentId =>
    obtain ⟨record, -, hafter⟩ := h.agent agentId rfl
    rw [change?, hafter]
    rfl

theorem toolsAt?_of_rewritten {before after : Directory} {target : Binding} {patch : Patch}
    (h : before.Rewritten after target patch) : after.toolsAt? target = some patch.tools := by
  cases target with
  | llmBound llmId =>
    obtain ⟨record, -, hafter⟩ := h.llm llmId rfl
    rw [toolsAt?, hafter]
    rfl
  | inline agentId =>
    obtain ⟨record, -, hafter⟩ := h.agent agentId rfl
    rw [toolsAt?, hafter]
    rfl

/-- A write to the binding of an agent leaves the agent bound as it was. -/
theorem bindingOf?_of_rewritten {before after : Directory} {agentId : String} {target : Binding}
    {patch : Patch} (h : before.Rewritten after target patch)
    (hbinding : before.bindingOf? agentId = some target) :
    after.bindingOf? agentId = some target := by
  by_cases htarget : target = .inline agentId
  · subst htarget
    obtain ⟨record, -, hafter⟩ := h.agent agentId rfl
    rw [bindingOf?, hafter]
    rfl
  · rw [bindingOf?, h.otherAgents agentId htarget]
    exact hbinding

/-- Records of a table that are written alike twice are written as by the first time. -/
theorem table_again {α : Type} {written : α → α} {isTarget : String → Prop}
    {before after later : String → Option α}
    (h : ∀ id, isTarget id → ∃ record, before id = some record ∧
      after id = some (written record))
    (hagain : ∀ id, isTarget id → ∃ record, after id = some record ∧
      later id = some (written record))
    (hothers : ∀ id, ¬isTarget id → later id = after id)
    (hwritten : ∀ record, written (written record) = written record) : later = after := by
  funext id
  by_cases htarget : isTarget id
  · obtain ⟨record, -, hafter⟩ := h id htarget
    obtain ⟨rewritten, hrewritten, hlater⟩ := hagain id htarget
    rw [hafter, Option.some.injEq] at hrewritten
    rw [hlater, hafter, ← hrewritten, hwritten]
  · exact hothers id htarget

/-- To write the same change once more leaves every agent as it is. -/
theorem Rewritten.agent?_again {before after later : Directory} {target : Binding} {patch : Patch}
    (h : before.Rewritten after target patch) (hagain : after.Rewritten later target patch) :
    later.agent? = after.agent? :=
  table_again h.agent hagain.agent hagain.otherAgents fun _ => rfl

/-- To write the same change once more leaves every language model as it is. -/
theorem Rewritten.llm?_again {before after later : Directory} {target : Binding} {patch : Patch}
    (h : before.Rewritten after target patch) (hagain : after.Rewritten later target patch) :
    later.llm? = after.llm? :=
  table_again h.llm hagain.llm hagain.otherLlms fun _ => rfl

/-! ## Discovery -/

/-- What a discovery tells of a directory is true: it found the tools of its binding, or it degraded
and found none. -/
structure Discovered (directory : Directory) (discovery : Discovery) : Prop where
  found : discovery.degraded = none →
    directory.toolsAt? discovery.binding = some discovery.existing
  degraded : discovery.degraded ≠ none → discovery.existing = []

theorem discovered_degrade (directory : Directory) (binding : Binding) (reason : DegradeReason) :
    directory.Discovered (.degrade binding reason) :=
  ⟨nofun, fun _ => rfl⟩

theorem discovered_found {directory : Directory} {binding : Binding} {tools : List Tool}
    (h : directory.toolsAt? binding = some tools) : directory.Discovered (.found binding tools) :=
  ⟨fun _ => h, fun hdegraded => absurd rfl hdegraded⟩

theorem discovered_afterAgent {directory : Directory} {agentId : String} {ending : Ending}
    {discovery : Discovery}
    (h : Discovery.afterAgent agentId (directory.settle (.fetchAgent agentId) ending).1 =
      .settled discovery) : directory.Discovered discovery := by
  rcases Discovery.afterAgent_settled_cases h with
    ⟨record, tools, script, hreply, hengine, rfl⟩ | ⟨-, reason, rfl⟩
  · refine discovered_found ?_
    rw [toolsAt?, agent?_of_answered hreply, Option.bind_some, AgentRecord.ownTools?, hengine]
  · exact directory.discovered_degrade _ reason

theorem discovered_afterLlm (directory : Directory) (llmId : String) (ending : Ending) :
    directory.Discovered
      (Discovery.afterLlm llmId (directory.settle (.fetchLlm llmId) ending).1) := by
  rcases Discovery.afterLlm_cases llmId (directory.settle (.fetchLlm llmId) ending).1 with
    ⟨record, hreply, hfound⟩ | ⟨reason, hdegraded⟩
  · rw [hfound]
    refine discovered_found ?_
    rw [toolsAt?, llm?_of_answered hreply, Option.map_some]
  · rw [hdegraded]
    exact directory.discovered_degrade _ reason

/-- A discovery by itself leaves the directory as it is. -/
theorem discover_remote (directory : Directory) (agentId : String) (limitMs : Nat) :
    (responder.discover agentId limitMs directory).remote = directory := by
  cases hprobe : Discovery.afterAgent agentId
      (responder (.fetchAgent agentId) limitMs directory).1 with
  | settled discovery =>
    rw [Responder.discover_of_settled hprobe]
    exact directory.settle_of_not_isWrite rfl _
  | refersTo llmId =>
    rw [Responder.discover_of_refersTo hprobe]
    exact (settle_of_not_isWrite _ rfl _).trans (directory.settle_of_not_isWrite rfl _)

/-- What a discovery by itself learns, read by read. -/
theorem discovery_discover (directory : Directory) (agentId : String) (limitMs : Nat) :
    (responder.discover agentId limitMs directory).discovery =
      match Discovery.afterAgent agentId
        (directory.respond (.fetchAgent agentId) (some limitMs)).1 with
      | .settled discovery => discovery
      | .refersTo llmId =>
        Discovery.afterLlm llmId (directory.respond (.fetchLlm llmId) (some limitMs)).1 := by
  have hstays : (responder (.fetchAgent agentId) limitMs directory).2 = directory :=
    directory.settle_of_not_isWrite rfl _
  cases hprobe : Discovery.afterAgent agentId
      (directory.respond (.fetchAgent agentId) (some limitMs)).1 with
  | settled discovery => rw [Responder.discover_of_settled hprobe]
  | refersTo llmId =>
    rw [Responder.discover_of_refersTo hprobe, hstays]
    rfl

/-- A discovery by itself tells the truth: its second read meets the same directory as its first. -/
theorem discovered_discover (directory : Directory) (agentId : String) (limitMs : Nat) :
    directory.Discovered (responder.discover agentId limitMs directory).discovery := by
  rw [discovery_discover]
  split
  · next discovery hprobe => exact discovered_afterAgent hprobe
  · exact directory.discovered_afterLlm _ _

/-- A discovery that does not degrade finds the binding that the record of the agent gives it. -/
theorem bindingOf?_of_discover {directory : Directory} {agentId : String} {limitMs : Nat}
    (h : (responder.discover agentId limitMs directory).discovery.degraded = none) :
    directory.bindingOf? agentId =
      some (responder.discover agentId limitMs directory).discovery.binding := by
  rw [discovery_discover] at h ⊢
  split at h
  · next discovery hprobe =>
    rcases Discovery.afterAgent_settled_cases hprobe with
      ⟨record, tools, script, hreply, hengine, rfl⟩ | ⟨-, reason, rfl⟩
    · rw [bindingOf?, agent?_of_answered hreply, Option.bind_some, hengine]
      rfl
    · cases h
  · next llmId hprobe =>
    obtain ⟨record, hreply, hengine, -⟩ := Discovery.afterAgent_eq_refersTo_iff.mp hprobe
    rw [bindingOf?, agent?_of_answered hreply, Option.bind_some, hengine]
    exact congrArg some (Discovery.afterLlm_eq llmId _).1.symm

end Directory

end CallFlow
