import CallFlow.Agent.Responder
import CallFlow.Deploy.Basic

/-!
# A deploy by itself

A deploy with nothing else going on, against any directory.  The calls are noted as they begin, and
the entries of the log in their order.
-/

namespace CallFlow

/-- A deploy by itself: its result, the store and the directory after it, the calls, and the
entries. -/
structure Run (σ : Type) where
  result : Except Failure Outcome
  store : Store
  remote : σ
  calls : List Call
  entries : List Log.Entry

/-- Deploys a flow for a client. -/
def Deployer.run {σ : Type} (deployer : Deployer) (respond : Responder σ) (client : Client)
    (flowId : String) (cancelled : Bool) (store : Store) (remote : σ) : Run σ :=
  match Job.accept store client flowId cancelled with
  | (.error failure, entries) => ⟨.error failure, store, remote, [], entries⟩
  | (.ok job, entries) =>
    let probed := respond.discover job.agentId deployer.discoveryTimeoutMs.toNat remote
    match deployer.prepare job probed.discovery cancelled with
    | (.error failure, more) =>
      ⟨.error failure, store, probed.remote, probed.calls, entries ++ more⟩
    | (.ok patch, more) =>
      let call := Call.write probed.discovery.binding patch
      let written := respond call deployer.pushTimeoutMs.toNat probed.remote
      let conclusion := deployer.conclude job probed.discovery patch written.1 store
      ⟨conclusion.result, conclusion.store, written.2, probed.calls ++ [call],
        entries ++ more ++ conclusion.entries⟩

end CallFlow
