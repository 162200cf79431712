import CallFlow.Proofs.Agent.Replay
import CallFlow.Rehearsal.Schedule

/-!
# Replaying the writes of a rehearsal

In a rehearsal it is time that decides which call ends next and which is dropped.  However the
actions come to lie in time, as long as none of them puts a record in, the records at the end are
those of the beginning with the noted writes replayed.
-/

namespace CallFlow

/-- The writes that were noted on the way from one directory to another one lead there. -/
def Directory.Replayed (before after : Directory) : Prop :=
  ∃ pushes, after.pushes = before.pushes ++ pushes ∧
    after.records = before.records.replay pushes

namespace Directory

theorem Replayed.refl (directory : Directory) : directory.Replayed directory :=
  ⟨[], (List.append_nil _).symm, rfl⟩

theorem Replayed.trans {before between after : Directory} (h : before.Replayed between)
    (hafter : between.Replayed after) : before.Replayed after := by
  obtain ⟨front, hfront, hreplay⟩ := h
  obtain ⟨back, hback, hagain⟩ := hafter
  refine ⟨front ++ back, ?_, ?_⟩
  · rw [hback, hfront, List.append_assoc]
  · rw [hagain, hreplay, Records.replay_append]

theorem Ends.replayed {before after : Directory} {ended : Ended} (h : before.Ends ended after) :
    before.Replayed after :=
  ⟨ended.push?.toList, h.replay⟩

end Directory

namespace Rehearsal

/-- Whether an action puts a record into the directory. -/
def Action.inserts : Action → Bool
  | .putAgent _ | .putLlm _ => true
  | _ => false

/-- Whether a task waits to put a record into the directory. -/
def Task.inserts (task : Task) : Bool :=
  match task.progress with
  | .scheduled action => action.inserts
  | _ => false

namespace World

theorem replayed_settle (world : World) (call : Call) (ending : Ending) :
    world.directory.Replayed (world.settle call ending).2.directory :=
  (world.directory.ends_settle call ending).replayed

theorem directory_awaitDeploy (world : World) (now : Nat) (signal : Option String)
    (step : Activity × List Log.Entry) :
    (world.awaitDeploy now signal step).2.directory = world.directory := by
  rw [awaitDeploy]
  cases step.1 <;> rfl

theorem replayed_start (world : World) (now : Nat) {action : Action}
    (h : action.inserts = false) :
    world.directory.Replayed (world.start now action).2.directory := by
  cases action with
  | putAgent record => cases h
  | putLlm record => cases h
  | deploy client flowId signal =>
    rw [start, directory_awaitDeploy]
    exact .refl _
  | save clientId flowId nodes edges =>
    change world.directory.Replayed (world.edited _).2.directory
    cases world.store.save clientId flowId nodes edges <;> exact .refl _
  | commit flowId expected =>
    change world.directory.Replayed (world.edited _).2.directory
    cases world.store.commit flowId expected <;> exact .refl _
  | _ => exact .refl _

theorem replayed_resumeDeploy (world : World) (now : Nat) (activity : Activity)
    (signal : Option String) (ending : Ending) :
    world.directory.Replayed (world.resumeDeploy now activity signal ending).2.directory := by
  cases activity with
  | probing job =>
    simp only [resumeDeploy, directory_awaitDeploy]
    exact world.replayed_settle _ ending
  | reading job llmId =>
    simp only [resumeDeploy, directory_awaitDeploy]
    exact world.replayed_settle _ ending
  | pushing job discovery patch => exact world.replayed_settle _ ending
  | finished result => exact .refl _

/-- What a task does next leads to other records by the writes that it has noted. -/
theorem replayed_resume (world : World) {task : Task} (h : task.inserts = false) :
    world.directory.Replayed (world.resume task).2.directory := by
  rw [Task.inserts] at h
  rw [resume]
  cases hprogress : task.progress with
  | scheduled action =>
    rw [hprogress] at h
    exact world.replayed_start _ h
  | deploying activity signal ending => exact world.replayed_resumeDeploy _ activity signal ending
  | probing agentId limitMs ending =>
    dsimp only
    split <;> exact world.replayed_settle _ ending
  | reading llmId ending => exact world.replayed_settle _ ending
  | pushing target patch ending => exact world.replayed_settle _ ending
  | finished answer => exact .refl _

theorem inserts_awaitDeploy (world : World) (now : Nat) (signal : Option String)
    (step : Activity × List Log.Entry) : (world.awaitDeploy now signal step).1.inserts = false := by
  rw [awaitDeploy]
  cases step.1 <;> rfl

/-- A task that has begun waits to put nothing in. -/
theorem inserts_resume (world : World) (task : Task) :
    (world.resume task).1.inserts = false := by
  rw [resume]
  cases task.progress with
  | scheduled action =>
    cases action with
    | deploy client flowId signal => exact inserts_awaitDeploy _ _ _ _
    | _ => rfl
  | deploying activity signal ending =>
    cases activity with
    | probing job => exact inserts_awaitDeploy _ _ _ _
    | reading job llmId => exact inserts_awaitDeploy _ _ _ _
    | _ => rfl
  | probing agentId limitMs ending =>
    dsimp only
    split <;> rfl
  | _ => rfl

theorem replayed_resumeFirst (world : World) (now : Nat) {tasks : List Task}
    (h : ∀ task ∈ tasks, task.inserts = false) :
    world.directory.Replayed (world.resumeFirst now tasks).2.directory ∧
      ∀ task ∈ (world.resumeFirst now tasks).1, task.inserts = false := by
  induction tasks with
  | nil => exact ⟨.refl _, List.forall_mem_nil _⟩
  | cons task tasks ih =>
    obtain ⟨htask, htasks⟩ := List.forall_mem_cons.mp h
    have hresumed := world.replayed_resume htask
    have hbegun := world.inserts_resume task
    obtain ⟨hreplayed, hothers⟩ := ih htasks
    rw [resumeFirst]
    generalize world.resume task = resumed at hresumed hbegun ⊢
    generalize world.resumeFirst now tasks = others at hreplayed hothers ⊢
    split
    · exact ⟨hresumed, List.forall_mem_cons.mpr ⟨hbegun, htasks⟩⟩
    · exact ⟨hreplayed, List.forall_mem_cons.mpr ⟨htask, hothers⟩⟩

theorem replayed_advance (steps : Nat) (world : World) {tasks : List Task}
    (h : ∀ task ∈ tasks, task.inserts = false) :
    world.directory.Replayed (advance steps world tasks).2.directory := by
  induction steps generalizing world tasks with
  | zero => exact .refl _
  | succ steps ih =>
    rw [advance]
    split
    · exact .refl _
    · next now _ =>
      obtain ⟨hfirst, hothers⟩ := world.replayed_resumeFirst now h
      exact hfirst.trans (ih _ hothers)

/-- Whatever is done side by side, and whenever it begins, the noted writes lead from the records of
the beginning to those of the end, unless records are put in on the way. -/
theorem replayed_performTogether (world : World) {actions : List (Nat × Action)}
    (h : ∀ entry ∈ actions, entry.2.inserts = false) :
    world.directory.Replayed (world.performTogether actions).2.directory := by
  refine replayed_advance _ world ?_
  intro task htask
  obtain ⟨entry, hentry, rfl⟩ := List.mem_map.mp htask
  exact h entry hentry

end World

end Rehearsal

end CallFlow
