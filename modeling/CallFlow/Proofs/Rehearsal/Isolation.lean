import Mathlib.Data.List.Forall2
import CallFlow.Proofs.Rehearsal.Preview

/-!
# A client among others

What a client gets depends on its own flows only, and what it does changes its own flows only.  Two
worlds with the same flows of a client, and otherwise any flows in their stores, are therefore the
same for the client, however long it uses them: a flow of somebody else is like a flow that is
missing.

Marking a flow is the one call to the store that names no client.  It is made by a deploy, and a
deploy marks the flow that it has loaded for its client.
-/

namespace CallFlow

namespace Store

variable {clientId : String} {store other after behind : Store}

/-- Two stores that hold the same flows of a client. -/
def Alike (clientId : String) (store other : Store) : Prop :=
  ∀ flowId, other.owned? clientId flowId = store.owned? clientId flowId

/-- Every flow of another client is as it was, and none has come. -/
def ForeignKept (clientId : String) (before after : Store) : Prop :=
  ∀ flowId flow, flow.clientId ≠ clientId →
    (after.get? flowId = some flow ↔ before.get? flowId = some flow)

/-- What a call of a client does to two stores with the same flows of the client: it leaves both as
they are, or it puts one flow into both, in the place of a flow of the client. -/
inductive Touched (clientId : String) (store other : Store) : Store → Store → Prop
  | kept : Touched clientId store other store other
  | put {old flow : Flow} (hthere : store.owned? clientId flow.id = some old)
      (howner : flow.clientId = clientId) :
      Touched clientId store other (store.insert flow) (other.insert flow)

theorem ForeignKept.refl (clientId : String) (store : Store) : store.ForeignKept clientId store :=
  fun _ _ _ => Iff.rfl

theorem ForeignKept.trans (h : store.ForeignKept clientId after)
    (hlater : after.ForeignKept clientId behind) : store.ForeignKept clientId behind :=
  fun flowId flow hforeign => (hlater flowId flow hforeign).trans (h flowId flow hforeign)

theorem owned?_insert (store : Store) (flow : Flow) (clientId flowId : String) :
    (store.insert flow).owned? clientId flowId =
      if flowId = flow.id then (some flow).filter fun flow => flow.clientId = clientId
      else store.owned? clientId flowId := by
  rw [owned?, get?_insert]
  split <;> rfl

theorem foreignKept_insert {old flow : Flow} (hthere : store.owned? clientId flow.id = some old)
    (howner : flow.clientId = clientId) : store.ForeignKept clientId (store.insert flow) := by
  intro flowId foreign hforeign
  rw [get?_insert]
  by_cases hid : flowId = flow.id
  · -- Neither the flow that was there nor the one that is put in is a foreign one.
    obtain ⟨hold, hmine⟩ := owned?_eq_some_iff.mp hthere
    subst hid
    rw [if_pos rfl, hold, Option.some.injEq, Option.some.injEq]
    constructor
    · rintro rfl
      exact absurd howner hforeign
    · rintro rfl
      exact absurd hmine hforeign
  · rw [if_neg hid]

theorem Touched.alike (h : store.Alike clientId other)
    (htouched : Touched clientId store other after behind) : after.Alike clientId behind := by
  cases htouched with
  | kept => exact h
  | put hthere howner =>
    intro flowId
    rw [owned?_insert, owned?_insert, h flowId]

theorem Touched.symm (h : store.Alike clientId other)
    (htouched : Touched clientId store other after behind) :
    Touched clientId other store behind after := by
  cases htouched with
  | kept => exact .kept
  | put hthere howner => exact .put ((h _).trans hthere) howner

theorem Touched.foreignKept (htouched : Touched clientId store other after behind) :
    store.ForeignKept clientId after := by
  cases htouched with
  | kept => exact .refl clientId store
  | put hthere howner => exact foreignKept_insert hthere howner

theorem Alike.load_eq (h : store.Alike clientId other) (flowId : String) :
    other.load clientId flowId = store.load clientId flowId := by
  rw [load, load, h flowId]

/-- To save a definition in two stores fails in both, or puts the same flow into both. -/
theorem Alike.save_cases (h : store.Alike clientId other) (flowId : String) (nodes : List Node)
    (edges : List Edge) :
    (∃ failure, store.save clientId flowId nodes edges = .error failure ∧
      other.save clientId flowId nodes edges = .error failure) ∨
    (∃ flow, store.save clientId flowId nodes edges = .ok (flow, store.insert flow) ∧
      other.save clientId flowId nodes edges = .ok (flow, other.insert flow) ∧
      Touched clientId store other (store.insert flow) (other.insert flow)) := by
  rw [save, save, h flowId]
  cases hflow : store.owned? clientId flowId with
  | none => exact .inl ⟨_, rfl, rfl⟩
  | some flow =>
    obtain ⟨hget, howner⟩ := owned?_eq_some_iff.mp hflow
    have hthere : store.owned? clientId (flow.withDefinition nodes edges).id = some flow := by
      rw [Flow.withDefinition, store.id_of_get? hget]
      exact hflow
    exact .inr ⟨_, rfl, rfl, .put hthere howner⟩

end Store

/-! ## Deploys and previews -/

theorem Store.Alike.loadJob_eq {store other : Store} {client : Client}
    (h : store.Alike client.id other) (flowId : String) :
    Job.load other client flowId = Job.load store client flowId := by
  rw [Job.load, Job.load, h.load_eq]

namespace Deployer

variable {σ : Type} {store other : Store} {client : Client}

theorem preview_eq_of_alike (deployer : Deployer) (h : store.Alike client.id other)
    (flowId : String) :
    deployer.preview other client flowId = deployer.preview store client flowId := by
  rw [preview, preview, h.load_eq]

/-- A deploy concludes in the same way from stores that both hold the flow that it loaded. -/
theorem touched_conclude (deployer : Deployer) {job : Job} (h : store.Alike client.id other)
    (hflow : store.owned? client.id job.flow.id = some job.flow) (discovery : Discovery)
    (patch : Patch) (reply : Reply Unit) :
    ∃ after, deployer.conclude job discovery patch reply other =
        { deployer.conclude job discovery patch reply store with store := after } ∧
      Store.Touched client.id store other
        (deployer.conclude job discovery patch reply store).store after := by
  rw [conclude, conclude]
  cases deployer.pushFailure? reply with
  | some failure => exact ⟨other, rfl, .kept⟩
  | none =>
    obtain ⟨hget, howner⟩ := Store.owned?_eq_some_iff.mp hflow
    have hother := (Store.owned?_eq_some_iff.mp ((h _).trans hflow)).1
    rw [Store.commit_of_get? hget, Store.commit_of_get? hother]
    exact ⟨other.insert job.flow.deployed, rfl, .put hflow howner⟩

/-- A deploy by itself does the same in both stores, whatever the directory is. -/
theorem touched_run (deployer : Deployer) (respond : Responder σ) (flowId : String)
    (cancelled : Bool) (remote : σ) (h : store.Alike client.id other) :
    ∃ after, deployer.run respond client flowId cancelled other remote =
        { deployer.run respond client flowId cancelled store remote with store := after } ∧
      Store.Touched client.id store other
        (deployer.run respond client flowId cancelled store remote).store after := by
  rw [run, run, Job.accept, Job.accept, h.loadJob_eq]
  cases hload : Job.load store client flowId with
  | error failure => exact ⟨other, rfl, .kept⟩
  | ok job =>
    cases cancelled with
    | true => exact ⟨other, rfl, .kept⟩
    | false =>
      obtain ⟨hget, howner, -⟩ := Job.load_eq_ok hload
      have hflow : store.owned? client.id job.flow.id = some job.flow := by
        rw [store.id_of_get? hget]
        exact Store.owned?_eq_some_iff.mpr ⟨hget, howner⟩
      let discovery := (deployer.probed respond job remote).discovery
      obtain ⟨after, hconclude, htouched⟩ := deployer.touched_conclude h hflow discovery
        (deployer.patch job discovery) (deployer.written respond job remote).1
      let ended (conclusion : Conclusion) : Run σ :=
        ⟨conclusion.result, conclusion.store, (deployer.written respond job remote).2,
          deployer.callsBegun respond job remote,
          job.flow.linkEntries ++ discovery.entries ++ conclusion.entries⟩
      exact ⟨after, congrArg ended hconclude, htouched⟩

end Deployer

/-! ## Worlds -/

namespace Rehearsal

/-- The actions by which a client uses its flows, and those that do not concern flows. -/
def Action.IsFor (clientId : String) : Action → Prop
  | .load id _ | .save id _ _ _ => id = clientId
  | .preview client _ | .deploy client _ _ => client.id = clientId
  | .putFlow _ | .getFlow _ | .commit _ _ => False
  | _ => True

namespace World

/-- Two worlds that differ in flows of other clients at most. -/
structure Alike (clientId : String) (world other : World) : Prop where
  rest : other = { world with store := other.store }
  flows : world.store.Alike clientId other.store

/-- The answers to actions that are performed one after the other, each with a deployer of its own,
and the worlds behind them. -/
def trace (world : World) : List (Deployer × Action) → List (Answer × World)
  | [] => []
  | (deployer, action) :: rest =>
    let behind := { world with deployer := deployer }.perform action
    behind :: behind.2.trace rest

/-- An action in two worlds that are alike: the answers, and the worlds behind it. -/
structure Matched (clientId : String) (world other : World) (one two : Answer × World) : Prop where
  answer : two.1 = one.1
  alike : one.2.Alike clientId two.2
  foreign : world.store.ForeignKept clientId one.2.store
  otherForeign : other.store.ForeignKept clientId two.2.store

variable {clientId : String} {world other : World}

theorem Matched.of_touched (h : world.store.Alike clientId other.store) {one two : Answer × World}
    (htwo : two = (one.1, { one.2 with store := two.2.store }))
    (htouched : Store.Touched clientId world.store other.store one.2.store two.2.store) :
    Matched clientId world other one two where
  answer := by rw [htwo]
  alike := ⟨by rw [htwo], htouched.alike h⟩
  foreign := htouched.foreignKept
  otherForeign := (htouched.symm h).foreignKept

/-- One action for a client does the same in both worlds. -/
theorem Alike.perform (h : world.Alike clientId other) {action : Action}
    (haction : action.IsFor clientId) :
    Matched clientId world other (world.perform action) (other.perform action) := by
  obtain ⟨hrest, hflows⟩ := h
  generalize other.store = store at hrest hflows
  subst hrest
  cases action with
  | load id flowId =>
    obtain rfl : id = clientId := haction
    refine .of_touched hflows ?_ .kept
    simp only [World.perform, hflows.load_eq]
  | save id flowId nodes edges =>
    obtain rfl : id = clientId := haction
    rcases hflows.save_cases flowId nodes edges with
      ⟨failure, hsave, hother⟩ | ⟨flow, hsave, hother, htouched⟩
    · simp only [World.perform, edited, hsave, hother]
      exact .of_touched hflows rfl .kept
    · simp only [World.perform, edited, hsave, hother]
      exact .of_touched hflows rfl htouched
  | preview client flowId =>
    obtain rfl : client.id = clientId := haction
    refine .of_touched hflows ?_ .kept
    simp only [World.perform, world.deployer.preview_eq_of_alike hflows]
  | deploy client flowId signal =>
    obtain rfl : client.id = clientId := haction
    obtain ⟨after, hrun, htouched⟩ := world.deployer.touched_run Directory.responder flowId
      (world.isRaised signal) world.directory hflows
    have hsignal :
        World.isRaised { world with store := store } signal = world.isRaised signal := rfl
    have hdeploy : ({ world with store := store } : World).perform (.deploy client flowId signal) =
        ((world.perform (.deploy client flowId signal)).1,
          { (world.perform (.deploy client flowId signal)).2 with store := after }) := by
      simp only [World.perform, deploy]
      rw [hsignal, hrun]
    rw [hdeploy]
    exact .of_touched hflows rfl htouched
  | putFlow flow => exact haction.elim
  | getFlow flowId => exact haction.elim
  | commit flowId expected => exact haction.elim
  | _ => exact .of_touched hflows rfl .kept

theorem Alike.withDeployer (h : world.Alike clientId other) (deployer : Deployer) :
    World.Alike clientId { world with deployer := deployer }
      { other with deployer := deployer } where
  rest := by rw [h.rest]
  flows := h.flows

/-- What is matched behind an action that is matched itself is matched from the beginning. -/
theorem Matched.behind {one two later latest : Answer × World}
    (h : Matched clientId world other one two)
    (hlater : Matched clientId one.2 two.2 later latest) :
    Matched clientId world other later latest where
  answer := hlater.answer
  alike := hlater.alike
  foreign := h.foreign.trans hlater.foreign
  otherForeign := h.otherForeign.trans hlater.otherForeign

/-- Two worlds that differ in flows of other clients at most stay so under all that a client does,
and answer it alike; and no flow of another client changes. -/
theorem matched_trace (h : world.Alike clientId other) {steps : List (Deployer × Action)}
    (hsteps : ∀ step ∈ steps, step.2.IsFor clientId) :
    List.Forall₂ (Matched clientId world other) (world.trace steps) (other.trace steps) := by
  induction steps generalizing world other with
  | nil => exact .nil
  | cons step rest ih =>
    obtain ⟨deployer, action⟩ := step
    have haction : action.IsFor clientId := hsteps (deployer, action) List.mem_cons_self
    have hrest : ∀ step ∈ rest, step.2.IsFor clientId :=
      fun step hstep => hsteps step (List.mem_cons_of_mem _ hstep)
    obtain ⟨hanswer, halike, hkept, hotherKept⟩ := (h.withDeployer deployer).perform haction
    have hfirst : Matched clientId world other _ _ := ⟨hanswer, halike, hkept, hotherKept⟩
    exact .cons hfirst ((ih hfirst.alike hrest).imp fun _ _ hlater => hfirst.behind hlater)

/-- The world of the webhook flow, in which somebody else has a flow too. -/
def sharedWorld : World :=
  { webhookWorld with store := webhookWorld.store.insert (Flow.new "g" "d") }

/-- A client tries a flow of somebody else, and deploys its own one. -/
def trial : List (Deployer × Action) :=
  [(webhookWorld.deployer, .save "c" "g" [] []),
    (webhookWorld.deployer, .deploy ⟨"c", []⟩ "g" none),
    (webhookWorld.deployer, .deploy ⟨"c", []⟩ "f" none)]

theorem alike_sharedWorld : webhookWorld.Alike "c" sharedWorld where
  rest := rfl
  flows := by
    intro flowId
    rw [sharedWorld, Store.owned?_insert]
    split
    · next hid =>
      subst hid
      rfl
    · rfl

/-- The client is told that the flow of somebody else is missing, just as where it is missing, and
the flow is still there behind the last step. -/
theorem matched_trace_of_trial :
    List.Forall₂ (Matched "c" webhookWorld sharedWorld) (webhookWorld.trace trial)
        (sharedWorld.trace trial) ∧
      ∃ first second third, sharedWorld.trace trial = [first, second, third] ∧
        second.1 = .outcome (.error (.flowNotFound "g")) ∧
        third.2.store.get? "g" = some (Flow.new "g" "d") := by
  have hsteps : ∀ step ∈ trial, step.2.IsFor "c" := by simp [trial, Action.IsFor]
  exact ⟨matched_trace alike_sharedWorld hsteps, _, _, _, rfl, rfl, rfl⟩

end World

end Rehearsal

end CallFlow
