import CallFlow.Proofs.Scene.Attempt

/-!
# What is pushed and what is marked

A deploy pushes the script of the nodes that it loaded.  When it marks the flow, the version that is
stored is the one that it loaded; the nodes that are stored need not be, since saving a definition
leaves the version alone.  They are those of the last definition that was saved in between.
-/

namespace CallFlow

namespace Attempt

variable {log : List Access} {place : Nat} {clientId flowId : String} {flow : Flow}

/-- The nodes that the calls between the loading and the mark left: the last ones saved, or the ones
that were loaded if none were. -/
def nodesLeft (attempt : Attempt log place clientId flowId flow) : List Node :=
  (((edits flowId attempt.meanwhile).getLast?.map Prod.fst).getD flow.nodes)

theorem nodesLeft_eq_of_forall (attempt : Attempt log place clientId flowId flow)
    (h : ∀ definition ∈ edits flowId attempt.meanwhile, definition.1 = flow.nodes) :
    attempt.nodesLeft = flow.nodes := by
  rw [nodesLeft]
  cases hlast : (edits flowId attempt.meanwhile).getLast? with
  | none => rfl
  | some definition => exact h definition (List.mem_of_getLast? hlast)

theorem stored_nodes (attempt : Attempt log place clientId flowId flow) {first last : Store}
    (h : Linked first log last) : attempt.stored.nodes = attempt.nodesLeft := by
  have hdefinition := congrArg Prod.fst (attempt.follows h).definition
  rw [nodesLeft]
  cases hlast : (edits flowId attempt.meanwhile).getLast? with
  | none => simpa [hlast] using hdefinition
  | some definition => simpa [hlast] using hdefinition

end Attempt

namespace Scene

/-- A deploy that succeeds pushed the script of the nodes that it loaded, and it marked the flow in
the version that it loaded.  The nodes that it marked are the loaded ones, unless others were saved
in between.  A deploy ends in a conflict only if the flow was marked in between. -/
theorem snapshot_run (store : Store) (moves : List Move) {place : Nat} {deploy : Deploy}
    {result : Except Failure Outcome}
    (hdeploy : ((start store).run moves).deploys[place]? = some deploy)
    (hresult : deploy.result? = some result) :
    (∀ outcome, result = .ok outcome →
      ∃ flow, deploy.flow = some flow ∧
        (∃ target patch, deploy.writes = [.write target patch] ∧
          patch.script = (Script.compile flow.nodes).text) ∧
        ∃ attempt : Attempt ((start store).run moves).log place deploy.client.id deploy.flowId flow,
          attempt.stored.version = flow.version ∧ attempt.stored.nodes = attempt.nodesLeft ∧
            ((∀ definition ∈ edits deploy.flowId attempt.meanwhile,
                definition.1 = flow.nodes) →
              outcome.script = (Script.compile attempt.stored.nodes).text)) ∧
    (∀ id expected found, result = .error (.persistenceConflict id expected found) →
      ∃ flow, deploy.flow = some flow ∧
        ∃ attempt : Attempt ((start store).run moves).log place deploy.client.id deploy.flowId flow,
          attempt.stored.version ≠ flow.version ∧
            commits deploy.flowId attempt.meanwhile ≠ []) := by
  have hlinked := linked_run store moves
  have hanswered := (traced_run store moves hdeploy).answered result hresult
  constructor
  · rintro outcome rfl
    obtain ⟨flow, hflow, attempt, hversion, -, -⟩ := hanswered
    obtain ⟨⟨loaded, target, patch, hloaded, hwrites, hpatch, hscript⟩, -⟩ :=
      settled_run store moves hdeploy hresult
    obtain rfl := Option.some.inj (hflow.symm.trans hloaded)
    have hnodes := attempt.stored_nodes hlinked
    refine ⟨flow, hflow, ⟨target, patch, hwrites, hpatch.trans hscript⟩, attempt, hversion, hnodes,
      fun hedits => ?_⟩
    rw [hnodes, attempt.nodesLeft_eq_of_forall hedits, hscript]
  · rintro id expected found rfl
    obtain ⟨flow, hflow, attempt, rfl, rfl, hne⟩ := hanswered
    refine ⟨flow, hflow, attempt, hne, fun hcommits => hne ?_⟩
    exact (attempt.linked_meanwhile hlinked).version_eq attempt.found attempt.present hcommits

/-! ## An edit in between -/

/-- A deploy loads a flow with a message, and the message is deleted while its write is under
way. -/
def editedMoves : List Move :=
  [.call (Deployer.new "https://portal.example.com/api") ⟨"c", []⟩ "f" none,
    .advance 0 .proceed, .advance 0 .proceed, .advance 0 (.agent .timedOut),
    .ask (.save "c" "f" [] []), .advance 0 (.write (.answered ())), .advance 0 .proceed]

/-- The deploy of that run marked the nodes that the edit had left. -/
theorem snapshot_run_of_edit :
    ∃ deploy outcome, ((start rivalStore).run editedMoves).deploys[0]? = some deploy ∧
      deploy.result? = some (.ok outcome) ∧
        ∃ flow, deploy.flow = some flow ∧
          ∃ attempt :
            Attempt ((start rivalStore).run editedMoves).log 0 deploy.client.id deploy.flowId flow,
            attempt.stored.version = flow.version ∧
              attempt.stored.nodes = attempt.nodesLeft := by
  obtain ⟨deploy, outcome, hdeploy, hresult⟩ :
      ∃ deploy outcome, ((start rivalStore).run editedMoves).deploys[0]? = some deploy ∧
        deploy.result? = some (.ok outcome) := ⟨_, _, rfl, rfl⟩
  obtain ⟨flow, hflow, -, attempt, hversion, hnodes, -⟩ :=
    (snapshot_run rivalStore editedMoves hdeploy hresult).1 outcome rfl
  exact ⟨deploy, outcome, hdeploy, hresult, flow, hflow, attempt, hversion, hnodes⟩

/-- The two calls of the deploy in that run. -/
def editedAttempt : Attempt ((start rivalStore).run editedMoves).log 0 "c" "f" rivalFlow where
  front := []
  load := ⟨some 0, .load "c" "f", rivalStore⟩
  back := ((start rivalStore).run editedMoves).log.tail
  log_eq := rfl
  loader := rfl
  load_request := rfl
  found := rfl
  meanwhile := [⟨none, .save "c" "f" [] [], rivalStore⟩]
  commit := ⟨some 0, .commit "f" 0, ((start rivalStore).run (editedMoves.take 5)).store⟩
  rest := []
  back_eq := rfl
  committer := rfl
  commit_request := rfl
  stored := { rivalFlow with nodes := [] }
  present := rfl

/-- The script that a deploy pushed need not be the script of the nodes that it marked: the edit
does not stand in its way. -/
theorem not_forall_script_eq_stored :
    ¬ ∀ (store : Store) (moves : List Move) (place : Nat) (deploy : Deploy) (outcome : Outcome)
      (flow : Flow) (attempt :
        Attempt ((start store).run moves).log place deploy.client.id deploy.flowId flow),
      ((start store).run moves).deploys[place]? = some deploy → deploy.flow = some flow →
        deploy.result? = some (.ok outcome) →
          outcome.script = (Script.compile attempt.stored.nodes).text := by
  intro h
  have hscript := h rivalStore editedMoves 0 _ _ rivalFlow editedAttempt rfl rfl rfl
  revert hscript
  decide

end Scene

end CallFlow
