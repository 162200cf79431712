import CallFlow.CommandLine.Run
import CallFlow.Proofs.Rehearsal.Preview

/-!
# A dry run

A dry run deploys to a directory in memory that holds the agent of the flow, under the id that the
deploy asks for, and nothing that could fail.  So it succeeds whenever the flow is fit to be deployed
by the client of the order.  It finds no tools to keep: what it registers are the tools of the flow,
and it prints the script and the tool names that a compilation prints.
-/

namespace CallFlow

open Json

theorem Tool.Kept.eq_nil {kept : List Tool} {taken : List String} (h : Kept [] taken kept) :
    kept = [] := by
  rw [List.eq_nil_iff_forall_not_mem]
  intro tool htool
  have hname : tool.name ∈ kept.map Tool.name := List.mem_map_of_mem htool
  exact List.not_mem_nil ((h.mem_iff tool.name).mp hname).1

theorem Store.get?_insert_deployed (store : Store) (flow : Flow) :
    (store.insert flow.deployed).get? flow.id = some flow.deployed :=
  if_pos rfl

/-! ## The names of tools -/

/-- The names of the tools of nodes: those of the providers that the nodes need, then those of the
nodes that have a target. -/
def Script.toolNames (nodes : List Node) : List String :=
  (compile nodes).providers.toList.flatMap Provider.toolNames ++
    (ToolName.dynamic nodes).filterMap id

/-- The names of tools do not depend on what the tools are resolved with. -/
theorem Resolver.names_toolsOf (resolver : Resolver) (client : Client) (nodes : List Node) :
    (resolver.toolsOf client nodes).map Tool.name = Script.toolNames nodes := by
  have hown : (resolver.dynamicTools nodes).map Tool.name =
      (ToolName.dynamic nodes).filterMap id :=
    resolver.names_dynamicToolsFrom ⟨0, 0⟩ nodes
  rw [toolsOf_eq, List.map_append, names_providerTools, hown]
  rfl

namespace CommandLine

/-- The flow is fit for an order: the ids of its nodes are valid, it is linked to an agent, and the
client that the order names, if it names one, is its owner. -/
structure Order.Fits (order : Order) (flow : Flow) : Prop where
  valid : flow.validate = .ok ()
  linked : ∃ agentId, flow.agentId = some agentId ∧ Text.blank agentId = false
  owned : ∀ clientId, order.clientId = some clientId → clientId = flow.clientId

namespace Order.Fits

variable {order : Order} {flow : Flow}

/-- A deploy marks a flow, and leaves it fit. -/
theorem deployed (h : order.Fits flow) : order.Fits flow.deployed :=
  ⟨h.valid, h.linked, h.owned⟩

theorem clientId_eq (h : order.Fits flow) : flow.clientId = (order.client flow).id := by
  change flow.clientId = order.clientId.getD flow.clientId
  cases hclient : order.clientId with
  | none => rfl
  | some clientId => exact (h.owned clientId hclient).symm

/-- A flow that fits is loaded from the store that holds it. -/
theorem exists_load (h : order.Fits flow) :
    ∃ agentId, flow.linkedAgent = some agentId ∧
      Job.load (Store.empty.insert flow) (order.client flow) flow.id =
        .ok ⟨order.client flow, flow, agentId⟩ := by
  obtain ⟨agentId, hagent, hblank⟩ := h.linked
  have hlinked : flow.linkedAgent = some (Text.trim agentId) := by
    simp [Flow.linkedAgent, hagent, Text.nonBlank, hblank]
  have hfound : (Store.empty.insert flow).get? flow.id = some flow := by
    rw [Store.get?_insert, if_pos rfl]
  exact ⟨_, hlinked, Job.load_of_linkedAgent hfound h.clientId_eq h.valid hlinked⟩

end Order.Fits

/-- What is loaded from the store that holds one flow is this flow. -/
theorem flow_eq_of_load {flow : Flow} {client : Client} {job : Job}
    (h : Job.load (Store.empty.insert flow) client flow.id = .ok job) : job.flow = flow := by
  have hflow := (Job.load_eq_ok h).1
  rw [Store.get?_insert, if_pos rfl] at hflow
  exact (Option.some.inj hflow).symm

theorem Order.fits_of_load {order : Order} {flow : Flow} {job : Job}
    (h : Job.load (Store.empty.insert flow) (order.client flow) flow.id = .ok job) :
    order.Fits flow := by
  obtain ⟨-, howner, hvalid, hlinked, -⟩ := Job.load_eq_ok h
  obtain rfl := flow_eq_of_load h
  refine ⟨hvalid, ?_, ?_⟩
  · cases hagent : job.flow.agentId with
    | none => simp [Flow.linkedAgent, hagent, Text.nonBlank] at hlinked
    | some agentId =>
      refine ⟨agentId, rfl, ?_⟩
      by_contra hblank
      simp [Flow.linkedAgent, hagent, Text.nonBlank, hblank] at hlinked
  · intro clientId hclient
    rw [Order.client, hclient] at howner
    exact howner.symm

/-! ## The directory of a dry run -/

/-- Every call to the directory of a dry run is carried out, whatever its time limit. -/
theorem respond_rehearsalDirectory (flow : Flow) (call : Call) (limitMs : Option Nat) :
    (rehearsalDirectory flow).respond call limitMs = (rehearsalDirectory flow).complete call := by
  have hcompletes : ((rehearsalDirectory flow).begin call limitMs).ending = .completes := by
    rw [rehearsalDirectory]
    cases flow.linkedAgent <;> cases call <;> cases limitMs <;> rfl
  rw [Directory.respond, hcompletes]
  rfl

/-- The agent of the flow stands in the directory under the id that a deploy asks for. -/
theorem agent?_rehearsalDirectory {flow : Flow} {agentId : String}
    (h : flow.linkedAgent = some agentId) :
    (rehearsalDirectory flow).agent? agentId = some (.inline agentId []) := by
  rw [rehearsalDirectory, h]
  exact if_pos rfl

theorem discovery_rehearsalDirectory {flow : Flow} {agentId : String}
    (h : flow.linkedAgent = some agentId) (limitMs : Nat) :
    (Directory.responder.discover agentId limitMs (rehearsalDirectory flow)).discovery =
      .found (.inline agentId) [] := by
  have hreads : (rehearsalDirectory flow).failAgentReads = false := by
    rw [rehearsalDirectory, h]
    rfl
  have hread : (rehearsalDirectory flow).readAgent agentId = .ok (.inline agentId []) := by
    exact Directory.readRecord_eq_ok_iff.mpr ⟨hreads, agent?_rehearsalDirectory h⟩
  rw [Directory.discovery_discover, respond_rehearsalDirectory, Directory.complete, hread]
  rfl

theorem written_rehearsalDirectory {flow : Flow} {agentId : String}
    (h : flow.linkedAgent = some agentId) (patch : Patch) (limitMs : Option Nat) :
    ((rehearsalDirectory flow).respond (.write (.inline agentId) patch) limitMs).1 =
      .answered () := by
  have hpushes : (rehearsalDirectory flow).failPushes = false := by
    rw [rehearsalDirectory, h]
    rfl
  obtain ⟨changed, hchange⟩ : ∃ changed,
      (rehearsalDirectory flow).change? patch (.inline agentId) = some changed := by
    rw [Directory.change?, agent?_rehearsalDirectory h]
    exact ⟨_, rfl⟩
  have hwrite := Directory.write_eq_ok_iff.mpr ⟨hpushes, changed, hchange, rfl⟩
  rw [respond_rehearsalDirectory, Directory.complete, hwrite]

/-! ## What a dry run comes to -/

/-- What is told of the dry run of a flow that is linked to an agent. -/
def rehearsed (flow : Flow) (agentId : String) : Outcome :=
  ⟨(Script.compile flow.nodes).text, Script.toolNames flow.nodes, .inline agentId, none,
    flow.deployed.version⟩

variable {σ : Type} {order : Order} {flow : Flow} {config : DeployConfig}

/-- The dry run of a flow that fits succeeds, and registers just the tools of the flow. -/
theorem Order.Fits.exists_rehearse_eq (h : order.Fits flow) (config : DeployConfig) (remote : σ) :
    ∃ agentId entries, order.rehearse flow config remote =
      ⟨none, some (rehearsed flow agentId).summary,
        some ⟨order.flowPath, pretty flow.deployed.toJson⟩, entries, remote⟩ := by
  obtain ⟨agentId, hlinked, hload⟩ := h.exists_load
  let job : Job := ⟨order.client flow, flow, agentId⟩
  let deployer := Deployer.ofConfig config
  have hdiscovery : (deployer.probed Directory.responder job (rehearsalDirectory flow)).discovery =
      .found (.inline agentId) [] :=
    discovery_rehearsalDirectory hlinked _
  have hreply : (deployer.written Directory.responder job (rehearsalDirectory flow)).1 =
      .answered () := by
    rw [Deployer.written_eq_respond, hdiscovery]
    exact written_rehearsalDirectory hlinked _ _
  have htold : deployer.told Directory.responder job (rehearsalDirectory flow) =
      rehearsed flow agentId := by
    obtain ⟨kept, hkept, hpatch⟩ := deployer.exists_kept_patch job (.found (.inline agentId) [])
    obtain rfl := hkept.eq_nil
    have hnames : (deployer.build flow.nodes (order.client flow)).tools.map Tool.name =
        Script.toolNames flow.nodes :=
      deployer.resolver.names_toolsOf _ _
    rw [Deployer.told, Deployer.change, hdiscovery, hpatch, rehearsed, ← hnames]
    rfl
  obtain ⟨entries, hrun⟩ := Deployer.exists_run_eq_of_answered hload rfl hreply
  refine ⟨agentId, entries, ?_⟩
  rw [Order.rehearse, hrun, htold]
  simp only [Report.ofRun, Store.get?_insert_deployed, Option.map_some]

/-- A dry run of a flow that does not fit fails. -/
theorem Order.complaint_rehearse_eq_none_iff {remote : σ} :
    (order.rehearse flow config remote).complaint = none ↔ order.Fits flow := by
  constructor
  · intro hnone
    rw [rehearse] at hnone
    cases hresult : ((Deployer.ofConfig config).run Directory.responder (order.client flow) flow.id
        false (Store.empty.insert flow) (rehearsalDirectory flow)).result with
    | error failure => simp [Report.ofRun, hresult] at hnone
    | ok outcome =>
      obtain ⟨job, hload, -⟩ := Deployer.exists_job_of_result_run hresult
      exact fits_of_load hload
  · intro hfits
    obtain ⟨agentId, entries, hrehearse⟩ := hfits.exists_rehearse_eq config remote
    rw [hrehearse]

/-- The compilation of a flow that fits succeeds. -/
theorem Order.Fits.compile_eq (h : order.Fits flow) (config : DeployConfig) (remote : σ) :
    order.compile flow config remote =
      ⟨none, some ((Deployer.ofConfig config).build flow.nodes (order.client flow)).toJson, none,
        [], remote⟩ := by
  obtain ⟨agentId, -, hload⟩ := h.exists_load
  have hpreview : (Deployer.ofConfig config).preview (Store.empty.insert flow)
      (order.client flow) flow.id =
        .ok ((Deployer.ofConfig config).build flow.nodes (order.client flow)) :=
    Deployer.preview_eq_of_load hload
  simp only [Order.compile, hpreview]

/-! ## What is printed -/

/-- What a command prints under a key. -/
def Report.printed? (report : Report σ) (key : String) : Option Json :=
  report.output.bind fun json => json.membersOrEmpty.get? key

/-- What a deploy prints as its script and its registered tools is the script, and the names of the
tools, that a compilation prints. -/
structure Report.Announces (deployed compiled : Report σ) : Prop where
  script : ∃ text, deployed.printed? "prompt_preview" = some (.string text) ∧
    compiled.printed? "prompt_preview" = some (.string text)
  tools : ∃ names tools, deployed.printed? "tools_registered" = some (.array names) ∧
    compiled.printed? "tools" = some (.array tools) ∧
    names.map some = tools.map fun tool => tool.membersOrEmpty.get? "name"

theorem get?_name_toJson (tool : Tool) :
    tool.toJson.membersOrEmpty.get? "name" = some (.string tool.name) :=
  rfl

/-- A report prints the script and the tool names of nodes. -/
structure Report.Prints (report : Report σ) (nodes : List Node) : Prop where
  script : report.printed? "prompt_preview" = some (.string (Script.compile nodes).text)
  tools : report.printed? "tools_registered" =
    some (.array ((Script.toolNames nodes).map Json.string))

theorem Order.Fits.prints_rehearse (h : order.Fits flow) (config : DeployConfig) (remote : σ) :
    (order.rehearse flow config remote).Prints flow.nodes := by
  obtain ⟨agentId, entries, hrehearse⟩ := h.exists_rehearse_eq config remote
  rw [hrehearse]
  exact ⟨rfl, rfl⟩

/-- A dry run announces what the compilation of the flow shows. -/
theorem Report.Prints.announces {report : Report σ} (h : report.Prints flow.nodes)
    (hfits : order.Fits flow) (config : DeployConfig) (remote : σ) :
    report.Announces (order.compile flow config remote) := by
  let tools := (Deployer.ofConfig config).resolver.toolsOf (order.client flow) flow.nodes
  have hnames : tools.map Tool.name = Script.toolNames flow.nodes :=
    (Deployer.ofConfig config).resolver.names_toolsOf _ _
  rw [hfits.compile_eq]
  constructor
  case script => exact ⟨_, h.script, rfl⟩
  case tools =>
    refine ⟨_, tools.map Tool.toJson, h.tools, rfl, ?_⟩
    rw [← hnames, List.map_map, List.map_map, List.map_map]
    refine List.map_congr_left fun tool _ => ?_
    exact (get?_name_toJson tool).symm

end CommandLine

end CallFlow
