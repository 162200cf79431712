import CallFlow.Proofs.Agent.Directory
import CallFlow.Rehearsal.World
import Mathlib.Logic.Function.Basic

/-!
# Replaying accepted writes

A directory in memory has many callers at once.  Calls begin and end in any order, faults and delays
change in between, and a call that has begun may be dropped.  The agents and the language models are
nonetheless those of the beginning with the accepted writes replayed in the order in which they were
noted: a write takes effect and is noted at one moment, the one at which its call is answered.

Delays and time limits decide when a call ends and whether it is dropped.  Both are left open here,
so that every order of beginnings and ends is covered.
-/

namespace CallFlow

/-- The agents and the language models of a directory. -/
structure Records where
  agent? : String → Option AgentRecord
  llm? : String → Option LlmRecord

namespace Records

/-- The records with a write applied.  Its target gets the tools and the script, an agent as an engine
of its own, and keeps its id and its extra members; every other record stays as it is. -/
def apply (records : Records) (push : Push) : Records :=
  match push.target with
  | .llmBound llmId =>
    { records with
      llm? := Function.update records.llm? llmId ((records.llm? llmId).map fun record =>
        { record with tools := push.patch.tools, script := some push.patch.script }) }
  | .inline agentId =>
    { records with
      agent? := Function.update records.agent? agentId ((records.agent? agentId).map fun record =>
        { record with engine := some (.inline push.patch.tools (some push.patch.script)) }) }

/-- The records with writes applied in turn. -/
def replay (records : Records) (pushes : List Push) : Records :=
  pushes.foldl apply records

theorem replay_append (records : Records) (front back : List Push) :
    records.replay (front ++ back) = (records.replay front).replay back :=
  List.foldl_append

end Records

/-- A call that has ended, with its reply. -/
structure Ended where
  call : Call
  reply : Reply call.Value

/-- The write that was accepted, if the call was one and was acknowledged. -/
def Ended.push? : Ended → Option Push
  | ⟨.write target patch, .answered ()⟩ => some ⟨target, patch⟩
  | _ => none

namespace Directory

/-- The records of a directory. -/
def records (directory : Directory) : Records :=
  ⟨directory.agent?, directory.llm?⟩

/-- How a call can end: what its caller is told, and the directory before and after that moment. -/
inductive Ends (before : Directory) : Ended → Directory → Prop
  | written {target : Binding} {patch : Patch} {after : Directory}
      (hnoted : after.pushes = before.pushes ++ [⟨target, patch⟩])
      (hrecords : after.records = before.records.apply ⟨target, patch⟩) :
      Ends before ⟨.write target patch, .answered ()⟩ after
  | unwritten {target : Binding} {patch : Patch} {reply : Reply Unit}
      (hreply : reply ≠ .answered ()) : Ends before ⟨.write target patch, reply⟩ before
  | foundAgent {agentId : String} {record : AgentRecord}
      (hrecord : before.agent? agentId = some record) :
      Ends before ⟨.fetchAgent agentId, .answered record⟩ before
  | foundLlm {llmId : String} {record : LlmRecord} (hrecord : before.llm? llmId = some record) :
      Ends before ⟨.fetchLlm llmId, .answered record⟩ before
  | unread {ended : Ended} (hread : ended.call.isWrite = false)
      (hreply : ∀ value, ended.reply ≠ .answered value) : Ends before ended before

/-! ## The end of one call -/

theorem Rewritten.records_eq {before after : Directory} {target : Binding} {patch : Patch}
    (h : before.Rewritten after target patch) :
    after.records = before.records.apply ⟨target, patch⟩ := by
  cases target with
  | llmBound llmId =>
    have hagents : after.agent? = before.agent? := by
      funext agentId
      exact h.otherAgents agentId nofun
    have hllms : after.llm? = (before.records.apply ⟨.llmBound llmId, patch⟩).llm? := by
      funext other
      obtain ⟨record, hbefore, hafter⟩ := h.llm llmId rfl
      by_cases hother : other = llmId
      · subst hother
        simp [Records.apply, records, hbefore, hafter]
      · have hkept := h.otherLlms other fun hsame => hother (Binding.llmBound.inj hsame).symm
        simp [Records.apply, records, hother, hkept]
    rw [records, hagents, hllms]
    rfl
  | inline agentId =>
    have hllms : after.llm? = before.llm? := by
      funext llmId
      exact h.otherLlms llmId nofun
    have hagents : after.agent? = (before.records.apply ⟨.inline agentId, patch⟩).agent? := by
      funext other
      obtain ⟨record, hbefore, hafter⟩ := h.agent agentId rfl
      by_cases hother : other = agentId
      · subst hother
        simp [Records.apply, records, hbefore, hafter]
      · have hkept := h.otherAgents other fun hsame => hother (Binding.inline.inj hsame).symm
        simp [Records.apply, records, hother, hkept]
    rw [records, hagents, hllms]
    rfl

/-- A call ends in one of these ways, whatever becomes of it. -/
theorem ends_settle (directory : Directory) (call : Call) (ending : Ending) :
    directory.Ends ⟨call, (directory.settle call ending).1⟩ (directory.settle call ending).2 := by
  cases call with
  | write target patch =>
    rcases directory.settle_write_cases target patch ending with
      ⟨hreply, hrewritten⟩ | ⟨hreply, hsame⟩
    · rw [hreply]
      exact .written hrewritten.noted hrewritten.records_eq
    · rw [hsame]
      exact .unwritten hreply
  | fetchAgent agentId =>
    rw [directory.settle_of_not_isWrite rfl]
    cases hreply : (directory.settle (.fetchAgent agentId) ending).1 with
    | answered record => exact .foundAgent (agent?_of_answered hreply)
    | failed failure => exact .unread rfl nofun
    | timedOut => exact .unread rfl nofun
  | fetchLlm llmId =>
    rw [directory.settle_of_not_isWrite rfl]
    cases hreply : (directory.settle (.fetchLlm llmId) ending).1 with
    | answered record => exact .foundLlm (llm?_of_answered hreply)
    | failed failure => exact .unread rfl nofun
    | timedOut => exact .unread rfl nofun

/-- The end of a call notes the write that was accepted, if one was, and applies it. -/
theorem Ends.replay {before after : Directory} {ended : Ended} (h : before.Ends ended after) :
    after.pushes = before.pushes ++ ended.push?.toList ∧
      after.records = before.records.replay ended.push?.toList := by
  cases h with
  | written hnoted hrecords => exact ⟨hnoted, hrecords⟩
  | foundAgent _ => exact ⟨(List.append_nil _).symm, rfl⟩
  | foundLlm _ => exact ⟨(List.append_nil _).symm, rfl⟩
  | @unwritten target patch reply hreply =>
    have hnone : Ended.push? ⟨.write target patch, reply⟩ = none := by
      cases reply with
      | answered value => exact absurd rfl hreply
      | failed failure => rfl
      | timedOut => rfl
    rw [hnone]
    exact ⟨(List.append_nil _).symm, rfl⟩
  | unread hread _ =>
    have hnone : ended.push? = none := by
      obtain ⟨call, reply⟩ := ended
      cases call with
      | write target patch => cases hread
      | fetchAgent agentId => rfl
      | fetchLlm llmId => rfl
    rw [hnone]
    exact ⟨(List.append_nil _).symm, rfl⟩

end Directory

/-! ## Many callers -/

/-- A directory among its callers. -/
structure Traffic where
  directory : Directory
  /-- The calls that have begun and not ended. -/
  waiting : List Call
  /-- The calls that have ended, oldest first. -/
  ended : List Ended

namespace Traffic

/-- What happens between a directory and its callers. -/
inductive Move where
  | begin (call : Call)
  /-- The waiting call at a place ends: it is carried out, dropped or refused. -/
  | finish (place : Nat) (ending : Ending)
  | setFaults (faults : Rehearsal.Faults)
  | refuse (operation : Operation) (failure : Option Failure)

def start (directory : Directory) : Traffic :=
  ⟨directory, [], []⟩

def step (traffic : Traffic) : Move → Traffic
  | .begin call => { traffic with waiting := traffic.waiting ++ [call] }
  | .finish place ending =>
    match traffic.waiting[place]? with
    | some call =>
      let settled := traffic.directory.settle call ending
      ⟨settled.2, traffic.waiting.eraseIdx place, traffic.ended ++ [⟨call, settled.1⟩]⟩
    | none => traffic
  | .setFaults faults => { traffic with directory := faults.apply traffic.directory }
  | .refuse operation failure =>
    { traffic with directory := traffic.directory.setRefusal operation failure }

def run (traffic : Traffic) (moves : List Move) : Traffic :=
  moves.foldl step traffic

theorem run_append (traffic : Traffic) (front back : List Move) :
    traffic.run (front ++ back) = (traffic.run front).run back :=
  List.foldl_append

/-- What one move can do: a waiting call ends, or no record and no noted write changes. -/
inductive Turn (before after : Traffic) : Prop
  | quiet (hrecords : after.directory.records = before.directory.records)
      (hpushes : after.directory.pushes = before.directory.pushes)
      (hended : after.ended = before.ended)
  | ends (ended : Ended) (hwaiting : ended.call ∈ before.waiting)
      (hends : before.directory.Ends ended after.directory)
      (hended : after.ended = before.ended ++ [ended])

theorem turn_step (traffic : Traffic) (move : Move) : traffic.Turn (traffic.step move) := by
  cases move with
  | begin call => exact .quiet rfl rfl rfl
  | setFaults faults => exact .quiet rfl rfl rfl
  | refuse operation failure => exact .quiet rfl rfl rfl
  | finish place ending =>
    rw [step]
    cases hcall : traffic.waiting[place]? with
    | none => exact .quiet rfl rfl rfl
    | some call =>
      exact .ends _ (List.mem_of_getElem? hcall) (traffic.directory.ends_settle call ending) rfl

/-- The writes that were accepted since the beginning, in the order of their ends. -/
def accepted (traffic : Traffic) : List Push :=
  traffic.ended.filterMap Ended.push?

/-- The records are those of the beginning with the accepted writes replayed, and just these writes
have been noted. -/
structure Replays (initial : Directory) (traffic : Traffic) : Prop where
  pushes : traffic.directory.pushes = initial.pushes ++ traffic.accepted
  records : traffic.directory.records = initial.records.replay traffic.accepted

theorem replays_start (directory : Directory) : Replays directory (start directory) :=
  ⟨(List.append_nil _).symm, rfl⟩

theorem Replays.turn {initial : Directory} {before after : Traffic} (h : Replays initial before)
    (hturn : before.Turn after) : Replays initial after := by
  cases hturn with
  | quiet hrecords hpushes hended =>
    have haccepted : after.accepted = before.accepted := by rw [accepted, accepted, hended]
    constructor
    · rw [hpushes, haccepted, h.pushes]
    · rw [hrecords, haccepted, h.records]
  | ends ended _ hends hended =>
    have haccepted : after.accepted = before.accepted ++ ended.push?.toList := by
      rw [accepted, accepted, hended, List.filterMap_append]
      cases hpush : ended.push? <;> simp [hpush]
    obtain ⟨hpushes, hrecords⟩ := hends.replay
    constructor
    · rw [hpushes, haccepted, h.pushes, List.append_assoc]
    · rw [hrecords, haccepted, h.records, Records.replay_append]

theorem Replays.run {initial : Directory} {traffic : Traffic} (h : Replays initial traffic)
    (moves : List Move) : Replays initial (traffic.run moves) := by
  induction moves generalizing traffic with
  | nil => exact h
  | cons move moves ih => exact ih (h.turn (traffic.turn_step move))

theorem Turn.prefix_pushes {before after : Traffic} (h : before.Turn after) :
    before.directory.pushes <+: after.directory.pushes := by
  cases h with
  | quiet _ hpushes _ => simp only [hpushes, List.prefix_refl]
  | ends ended _ hends _ =>
    rw [hends.replay.1]
    exact List.prefix_append _ _

theorem prefix_pushes_run (traffic : Traffic) (moves : List Move) :
    traffic.directory.pushes <+: (traffic.run moves).directory.pushes := by
  induction moves generalizing traffic with
  | nil => exact List.prefix_refl _
  | cons move moves ih => exact (traffic.turn_step move).prefix_pushes.trans (ih _)

/-- Whatever the callers of a directory do, and however its faults change, its records are those of
the beginning with the accepted writes replayed in the order in which they were noted.  The list of
noted writes only grows, by one for each write that is acknowledged; any other end of a write changes
nothing, and a read that is answered tells the record as it is at that moment. -/
theorem replays_run (directory : Directory) (moves : List Move) :
    Replays directory ((start directory).run moves) ∧
      (∀ more : List Move, ((start directory).run moves).directory.pushes <+:
        ((start directory).run (moves ++ more)).directory.pushes) ∧
      ∀ move : Move, ((start directory).run moves).Turn
        (((start directory).run moves).step move) := by
  refine ⟨(replays_start directory).run moves, ?_, turn_step _⟩
  intro more
  rw [run_append]
  exact prefix_pushes_run _ more

/-- Of two writes to one agent that wait together, the one that ends while writes fail is not noted,
and the other one is. -/
example : (((start (Directory.empty.insertAgent (.inline "a" []))).run
    [.begin (.write (.inline "a") ⟨"s", []⟩), .begin (.write (.inline "a") ⟨"t", []⟩),
      .setFaults ⟨none, none, some true, none, none⟩, .finish 1 .completes,
      .setFaults ⟨none, none, some false, none, none⟩, .finish 0 .completes]).accepted.map
        (Patch.script ∘ Push.patch)) = ["s"] := by
  decide

end Traffic

end CallFlow
