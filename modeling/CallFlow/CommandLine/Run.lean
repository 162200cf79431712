import CallFlow.Agent.Directory
import CallFlow.CommandLine.Options
import CallFlow.Deploy.Run
import CallFlow.Flow.Codec
import CallFlow.Http.Remote

/-!
# Carrying out a command

A command reads the file of a flow and its configuration, compiles or deploys the flow, and tells
what to print.  The file of a flow is written only after a deploy that succeeded.  Reading files,
the environment and the remote service are given from outside.
-/

namespace CallFlow.CommandLine

open Json

/-- What a command runs in: files by path, or why they cannot be read; the environment; and a way
for requests to travel.  A path stands for one file: files are told apart by how their paths are
spelled, and nothing else leads from one path to the file of another. -/
structure Surroundings (σ : Type) where
  readFile : String → Except String String
  env : Environment
  transport : Http.Transport σ

/-- Why a command did not succeed. -/
inductive Complaint where
  | flowUnreadable (path : String)
  | flowInvalid (path : String)
  | flowNotWritten (path : String)
  | failure (failure : Failure)
  deriving DecidableEq

/-- The text of a complaint. -/
def Complaint.message : Complaint → String
  | .flowUnreadable path => "failed to read flow file `" ++ path ++ "`"
  | .flowInvalid path => "invalid flow file `" ++ path ++ "`"
  | .flowNotWritten path => "failed to write flow file `" ++ path ++ "`"
  | .failure why => why.message

/-- A file to write. -/
structure FileChange where
  path : String
  text : String
  deriving DecidableEq

/-- What comes of a command: the complaint if it failed, the JSON to print, the file to write before
that, the entries of the log, and the state of the transport. -/
structure Report (σ : Type) where
  complaint : Option Complaint
  output : Option Json
  change : Option FileChange
  entries : List Log.Entry
  remote : σ

namespace Report

variable {σ : Type}

/-- A command that failed before it could start. -/
def failed (complaint : Complaint) (remote : σ) : Report σ :=
  ⟨some complaint, none, none, [], remote⟩

/-- The exit code of a command. -/
def exitCode (report : Report σ) : Nat :=
  if report.complaint.isSome then 1 else 0

/-- What a command prints. -/
def text (report : Report σ) : String :=
  match report.output with
  | some json => pretty json ++ "\n"
  | none => ""

/-- The report of a command once it is known whether its file could be written.  Without the file the
command fails and prints nothing. -/
def settled (report : Report σ) (isWritten : Bool) : Report σ :=
  match report.change with
  | some change =>
    if isWritten then report
    else { report with complaint := some (.flowNotWritten change.path), output := none }
  | none => report

end Report

/-- The exit code of arguments that make no sense. -/
def usageExitCode : Nat := 2

/-- What the program prints when it is asked for its version. -/
def versionText : String :=
  "voxflow 0.1.0\n"

/-- What the program prints of its usage. -/
def usageText : String :=
  "Usage: voxflow compile --flow <FILE> [--config <FILE>] [--client-id <ID>]\n" ++
    "       voxflow deploy --flow <FILE> [--config <FILE>] [--client-id <ID>] [--dry-run]\n"

/-- Reads the flow of a file. -/
def loadFlow (readFile : String → Except String String) (path : String) : Except Complaint Flow :=
  match readFile path with
  | .error _ => .error (.flowUnreadable path)
  | .ok text => (Decoder.ofText Flow.decoder text).mapError fun _ => .flowInvalid path

/-- Reads the configuration of a file. -/
def configOfFile (readFile : String → Except String String) (path : String) :
    Except Failure DeployConfig :=
  match readFile path with
  | .error reason => .error (.config ("failed to read `" ++ path ++ "`: " ++ reason))
  | .ok text => (DeployConfig.ofText text).mapError DeployConfig.LoadError.failure

/-- Reads the configuration from a file if one is named, or else from the environment.  A command
that does not need the remote service makes do with the default one. -/
def loadConfig (readFile : String → Except String String) (env : Environment)
    (path : Option String) (allowDefault : Bool) : Except Failure DeployConfig :=
  match path with
  | some path => configOfFile readFile path
  | none =>
    match DeployConfig.ofEnvironment env with
    | .ok config => .ok config
    | .error failure => if allowDefault then .ok .default else .error failure

/-- The directory of a dry run: it holds the agent of the flow, without tools. -/
def rehearsalDirectory (flow : Flow) : Directory :=
  match flow.linkedAgent with
  | some agentId => Directory.empty.insertAgent (.inline agentId [])
  | none => .empty

/-- The report of a deploy. -/
def Report.ofRun {σ τ : Type} (path : String) (flowId : String) (run : Run τ) (remote : σ) :
    Report σ :=
  match run.result with
  | .error failure => ⟨some (.failure failure), some failure.body, none, run.entries, remote⟩
  | .ok outcome =>
    ⟨none, some outcome.summary,
      (run.store.get? flowId).map fun flow => ⟨path, pretty flow.toJson⟩, run.entries, remote⟩

namespace Order

variable {σ : Type}

/-- The client of an order: the one that is named, or else the owner of the flow. -/
def client (order : Order) (flow : Flow) : Client :=
  ⟨order.clientId.getD flow.clientId, []⟩

/-- Compiles a flow. -/
def compile (order : Order) (flow : Flow) (config : DeployConfig) (remote : σ) : Report σ :=
  let store := Store.empty.insert flow
  match (Deployer.ofConfig config).preview store (order.client flow) flow.id with
  | .ok preview => ⟨none, some preview.toJson, none, [], remote⟩
  | .error failure => .failed (.failure failure) remote

/-- Deploys a flow to a directory in memory. -/
def rehearse (order : Order) (flow : Flow) (config : DeployConfig) (remote : σ) : Report σ :=
  let run := (Deployer.ofConfig config).run Directory.responder (order.client flow) flow.id false
    (Store.empty.insert flow) (rehearsalDirectory flow)
  .ofRun order.flowPath flow.id run remote

/-- Deploys a flow to the remote service. -/
def deploy (order : Order) (flow : Flow) (config : DeployConfig) (surroundings : Surroundings σ)
    (remote : σ) : Report σ :=
  match Http.Remote.ofConfig config surroundings.env with
  | .error failure => .failed (.failure failure) remote
  | .ok service =>
    let run := (Deployer.ofConfig config).run (service.respond surroundings.transport)
      (order.client flow) flow.id false (Store.empty.insert flow) remote
    .ofRun order.flowPath flow.id run run.remote

/-- Carries out an order. -/
def run (order : Order) (surroundings : Surroundings σ) (remote : σ) : Report σ :=
  match loadFlow surroundings.readFile order.flowPath with
  | .error complaint => .failed complaint remote
  | .ok flow =>
    match loadConfig surroundings.readFile surroundings.env order.configPath
        (order.command != .deploy false) with
    | .error failure => .failed (.failure failure) remote
    | .ok config =>
      match order.command with
      | .compile => order.compile flow config remote
      | .deploy true => order.rehearse flow config remote
      | .deploy false => order.deploy flow config surroundings remote

end Order

end CallFlow.CommandLine
