import CallFlow.Deploy.Activity
import CallFlow.Rehearsal.World

/-!
# Actions side by side

Actions that start together share the world.  Each runs without interruption until it waits for the
directory, and time goes on only when all of them wait.  Of the tasks that are ready at the same
moment the one that stands first in the list goes first.
-/

namespace CallFlow.Rehearsal

/-- What a task does next. -/
inductive Progress where
  /-- It has not begun. -/
  | scheduled (action : Action)
  /-- A deploy waits for a reply. -/
  | deploying (activity : Activity) (signal : Option String) (ending : Ending)
  /-- A discovery waits for the record of the agent. -/
  | probing (agentId : String) (limitMs : Nat) (ending : Ending)
  /-- A discovery waits for the record of the language model. -/
  | reading (llmId : String) (ending : Ending)
  /-- A write waits for its reply. -/
  | pushing (target : Binding) (patch : Patch) (ending : Ending)
  | finished (answer : Answer)

/-- A task, and the time at which it is ready to go on. -/
structure Task where
  readyMs : Nat
  progress : Progress

/-- The answer of a task that is finished. -/
def Task.answer? (task : Task) : Option Answer :=
  match task.progress with
  | .finished answer => some answer
  | _ => none

namespace World

/-- Begins a call, notes it, and waits for its end. -/
def await (world : World) (now : Nat) (call : Call) (limitMs : Option Nat)
    (progress : Ending → Progress) : Task × World :=
  let wait := world.directory.begin call limitMs
  (⟨now + wait.ms, progress wait.ending⟩, { world with calls := world.calls ++ [call] })

/-- Ends a call. -/
def settle (world : World) (call : Call) (ending : Ending) : Reply call.Value × World :=
  let (reply, directory) := world.directory.settle call ending
  (reply, { world with directory := directory })

/-- The task of a deploy after one of its steps. -/
def awaitDeploy (world : World) (now : Nat) (signal : Option String)
    (step : Activity × List Log.Entry) : Task × World :=
  let world := world.note step.2
  let await (call : Call) :=
    world.await now call (some (world.deployer.limitMs call)) (.deploying step.1 signal)
  match step.1 with
  | .probing job => await (.fetchAgent job.agentId)
  | .reading _ llmId => await (.fetchLlm llmId)
  | .pushing _ discovery patch => await (.write discovery.binding patch)
  | .finished result => (⟨now, .finished (.outcome result)⟩, world)

/-- The task of a discovery after its last step. -/
def finishDiscovery (world : World) (now : Nat) (discovery : Discovery) : Task × World :=
  (⟨now, .finished (.discovery discovery)⟩, world.note discovery.entries)

/-- Begins an action. -/
def start (world : World) (now : Nat) : Action → Task × World
  | .deploy client flowId signal =>
    world.awaitDeploy now signal
      (Activity.start world.store client flowId (world.isRaised signal))
  | .discover agentId limitMs =>
    world.await now (.fetchAgent agentId) (some limitMs) (.probing agentId limitMs)
  | .push target patch => world.await now (.write target patch) none (.pushing target patch)
  | action =>
    let (answer, world) := world.perform action
    (⟨now, .finished answer⟩, world)

/-- Goes on with a deploy whose call ends. -/
def resumeDeploy (world : World) (now : Nat) (activity : Activity) (signal : Option String)
    (ending : Ending) : Task × World :=
  match activity with
  | .probing job =>
    let (reply, world) := world.settle (.fetchAgent job.agentId) ending
    world.awaitDeploy now signal
      (Activity.afterAgent world.deployer job reply (world.isRaised signal))
  | .reading job llmId =>
    let (reply, world) := world.settle (.fetchLlm llmId) ending
    world.awaitDeploy now signal
      (Activity.afterLlm world.deployer job llmId reply (world.isRaised signal))
  | .pushing job discovery patch =>
    let (reply, world) := world.settle (.write discovery.binding patch) ending
    let conclusion := world.deployer.conclude job discovery patch reply world.store
    (⟨now, .finished (.outcome conclusion.result)⟩,
      { world with store := conclusion.store }.note conclusion.entries)
  | .finished result => (⟨now, .finished (.outcome result)⟩, world)

/-- Goes on with a task that is ready. -/
def resume (world : World) (task : Task) : Task × World :=
  let now := task.readyMs
  match task.progress with
  | .scheduled action => world.start now action
  | .deploying activity signal ending => world.resumeDeploy now activity signal ending
  | .probing agentId limitMs ending =>
    let (reply, world) := world.settle (.fetchAgent agentId) ending
    match Discovery.afterAgent agentId reply with
    | .settled discovery => world.finishDiscovery now discovery
    | .refersTo llmId => world.await now (.fetchLlm llmId) (some limitMs) (.reading llmId)
  | .reading llmId ending =>
    let (reply, world) := world.settle (.fetchLlm llmId) ending
    world.finishDiscovery now (Discovery.afterLlm llmId reply)
  | .pushing target patch ending =>
    let (reply, world) := world.settle (.write target patch) ending
    (⟨now, .finished (.reply reply)⟩, world)
  | .finished answer => (⟨now, .finished answer⟩, world)

/-- Goes on with the first unfinished task that is ready at a time. -/
def resumeFirst (world : World) (now : Nat) : List Task → List Task × World
  | [] => ([], world)
  | task :: tasks =>
    if task.answer?.isNone && task.readyMs == now then
      let (task, world) := world.resume task
      (task :: tasks, world)
    else
      let (tasks, world) := world.resumeFirst now tasks
      (task :: tasks, world)

/-- The next time at which a task is ready, unless all are finished. -/
def nextTime? (tasks : List Task) : Option Nat :=
  ((tasks.filter fun task => task.answer?.isNone).map Task.readyMs).min?

/-- Takes a number of steps of tasks. -/
def advance : Nat → World → List Task → List Task × World
  | 0, world, tasks => (tasks, world)
  | steps + 1, world, tasks =>
    match nextTime? tasks with
    | none => (tasks, world)
    | some now =>
      let (tasks, world) := world.resumeFirst now tasks
      advance steps world tasks

/-- The most steps that a task takes: it begins, and waits for at most three calls. -/
def stepsOfTask : Nat := 4

/-- Performs actions side by side, each from its time on, and answers in the order of the list.  A
time behind the longest wait counts as the longest wait. -/
def performTogether (world : World) (actions : List (Nat × Action)) : List Answer × World :=
  let tasks := actions.map fun (readyMs, action) =>
    ⟨Timer.waitMs readyMs, .scheduled action⟩
  let (tasks, world) := advance (stepsOfTask * actions.length) world tasks
  (tasks.filterMap Task.answer?, world)

end World

end CallFlow.Rehearsal
