import CallFlow.Proofs.Rehearsal.Preview
import CallFlow.Proofs.Tool.Layers

/-!
# Deploys one after the other

Each deploy reads back what the deploy in front of it wrote, and merges its own tools into that.
As long as discovery does not degrade, this loses nothing: after any number of deploys for an agent
the tools of its binding are layered, with what was there first at the bottom and one layer for each
deploy.  The flows may be different ones, and anything may happen to them in between.
-/

namespace CallFlow.Directory

/-- Deploys for one agent that all succeeded without degrading, one after the other: the directory
in front of them, the tools that each of them resolved, and the directory behind them.  Every deploy
may meet another store.  Meanwhile the faults and the delays of the directory may change, but nobody
else writes to its records. -/
inductive History (agentId : String) (first : Directory) :
    List (List Tool) → Directory → Prop
  | start : History agentId first [] first
  | deploy {brought : List (List Tool)} {directory : Directory} {deployer : Deployer}
      {client : Client} {flowId : String} {cancelled : Bool} {store : Store} {job : Job}
      {outcome : Outcome} (h : History agentId first brought directory)
      (hload : Job.load store client flowId = .ok job) (hagent : job.agentId = agentId)
      (hresult : (deployer.run responder client flowId cancelled store directory).result =
        .ok outcome)
      (hfound : outcome.degraded = none) :
      History agentId first (brought ++ [(deployer.build job.flow.nodes client).tools])
        (deployer.run responder client flowId cancelled store directory).remote
  | meanwhile {brought : List (List Tool)} {directory later : Directory}
      (h : History agentId first brought directory) (hagents : later.agent? = directory.agent?)
      (hllms : later.llm? = directory.llm?) : History agentId first brought later

variable {agentId : String} {directory later : Directory} {target : Binding}

theorem toolsAt?_congr (hagents : later.agent? = directory.agent?)
    (hllms : later.llm? = directory.llm?) (target : Binding) :
    later.toolsAt? target = directory.toolsAt? target := by
  cases target with
  | llmBound llmId => rw [toolsAt?, toolsAt?, hllms]
  | inline agentId => rw [toolsAt?, toolsAt?, hagents]

theorem bindingOf?_congr (hagents : later.agent? = directory.agent?) (agentId : String) :
    later.bindingOf? agentId = directory.bindingOf? agentId := by
  rw [bindingOf?, bindingOf?, hagents]

/-- A deploy that succeeds without degrading merges its tools into those of the binding of its
agent, which stays bound as it was. -/
theorem merged_of_result_run {deployer : Deployer} {client : Client} {flowId : String}
    {cancelled : Bool} {store : Store} {job : Job} {outcome : Outcome} {tools : List Tool}
    (hbinding : directory.bindingOf? agentId = some target)
    (htools : directory.toolsAt? target = some tools)
    (hload : Job.load store client flowId = .ok job) (hagent : job.agentId = agentId)
    (hresult : (deployer.run responder client flowId cancelled store directory).result =
      .ok outcome)
    (hfound : outcome.degraded = none) :
    let after := (deployer.run responder client flowId cancelled store directory).remote
    after.bindingOf? agentId = some target ∧
      after.toolsAt? target =
        some (Tool.merge tools (deployer.build job.flow.nodes client).tools) := by
  intro after
  obtain ⟨loaded, hloaded, hreply, rfl, hremote⟩ := Deployer.exists_job_of_result_run hresult
  obtain rfl : loaded = job := Except.ok.inj (hloaded.symm.trans hload)
  obtain rfl : loaded.client = client := (Job.load_eq_ok hload).2.2.2.2
  have hrewritten := Deployer.rewritten_of_answered hreply
  -- What the deploy discovered is the binding of the agent with the tools that it has there.
  have hbound := bindingOf?_of_discover hfound
  rw [hagent, hbinding] at hbound
  have htarget : target =
      (deployer.probed responder loaded directory).discovery.binding := by
    rw [Deployer.probed, hagent]
    exact Option.some.inj hbound
  have hexisting := (directory.discovered_discover loaded.agentId
    deployer.discoveryTimeoutMs.toNat).found hfound
  have hsame : (deployer.probed responder loaded directory).discovery.existing = tools := by
    rw [htarget] at htools
    exact Option.some.inj (hexisting.symm.trans htools)
  rw [← htarget] at hrewritten
  have hwritten := toolsAt?_of_rewritten hrewritten
  constructor
  · rw [show after = _ from hremote]
    exact bindingOf?_of_rewritten hrewritten hbinding
  · rw [show after = _ from hremote, hwritten, Deployer.change, Deployer.patch, hsame]

/-- Throughout a history the binding of the agent stays, and its tools are layered. -/
theorem History.layered {first : Directory} {existing : List Tool}
    {brought : List (List Tool)} (hbinding : first.bindingOf? agentId = some target)
    (htools : first.toolsAt? target = some existing)
    (h : History agentId first brought later) :
    later.bindingOf? agentId = some target ∧
      ∃ tools, later.toolsAt? target = some tools ∧ Tool.Layered (existing :: brought) tools ∧
        (brought ≠ [] → (tools.map Tool.name).Nodup) := by
  induction h with
  | start =>
    have hbottom := Tool.layered_singleton existing
    exact ⟨hbinding, existing, htools, hbottom, fun hnone => absurd rfl hnone⟩
  | @deploy brought directory deployer client flowId cancelled store job outcome h hload hagent
      hresult hfound ih =>
    obtain ⟨hbound, tools, hpresent, hlayered, -⟩ := ih
    have hstep := merged_of_result_run hbound hpresent hload hagent hresult hfound
    have hdistinct := deployer.resolver.nodup_names_toolsOf client job.flow.nodes
    refine ⟨hstep.1, _, hstep.2, ?_, fun _ => Tool.nodup_names_merge _ _⟩
    rw [← List.cons_append]
    exact Tool.layered_merge hlayered hdistinct
  | meanwhile h hagents hllms ih =>
    obtain ⟨hbound, tools, hpresent, hlayered, hdistinct⟩ := ih
    refine ⟨?_, tools, ?_, hlayered, hdistinct⟩
    · rw [bindingOf?_congr hagents]
      exact hbound
    · rw [toolsAt?_congr hagents hllms]
      exact hpresent

/-- Every deploy of a history brought tools with distinct names. -/
theorem History.nodup_names {first : Directory} {brought : List (List Tool)}
    (h : History agentId first brought later) :
    ∀ resolved ∈ brought, (resolved.map Tool.name).Nodup := by
  induction h with
  | start =>
    intro resolved hresolved
    cases hresolved
  | @deploy brought directory deployer client flowId cancelled store job outcome h hload hagent
      hresult hfound ih =>
    intro resolved hresolved
    rcases List.mem_append.mp hresolved with hearlier | hlast
    · exact ih resolved hearlier
    · obtain rfl := List.mem_singleton.mp hlast
      exact deployer.resolver.nodup_names_toolsOf client job.flow.nodes
  | meanwhile h hagents hllms ih => exact ih

/-- After deploys for an agent, at least one of them, the tools of its binding have distinct names
and are layered: what was there first is at the bottom, and what the last deploy resolved is on
top. -/
theorem accumulated_of_history {first : Directory} {existing : List Tool}
    {brought : List (List Tool)} (hbinding : first.bindingOf? agentId = some target)
    (htools : first.toolsAt? target = some existing)
    (h : History agentId first brought later) (hdeployed : brought ≠ []) :
    later.bindingOf? agentId = some target ∧
      (∀ resolved ∈ brought, (resolved.map Tool.name).Nodup) ∧
      ∃ tools, later.toolsAt? target = some tools ∧ (tools.map Tool.name).Nodup ∧
        Tool.Layered (existing :: brought) tools := by
  obtain ⟨hbound, tools, hpresent, hlayered, hdistinct⟩ := h.layered hbinding htools
  have hresolved := h.nodup_names
  exact ⟨hbound, hresolved, tools, hpresent, hdistinct hdeployed, hlayered⟩

/-! ## An edit between two deploys -/

/-- An agent with two definitions of one tool. -/
def repeatingDirectory : Directory :=
  empty.insertAgent (.inline "a" [.new "custom" "x", .new "custom" "y", .new "other" "x"])

/-- A flow of one node that is linked to that agent. -/
def singleFlow (kind : NodeKind) : Flow :=
  ⟨"f", "c", "", [.ofKind "n" kind], [], 0, false, some " a "⟩

/-- The one node is a webhook at the first deploy and a transfer at the second.  What both deploys
brought is there, and of the two definitions of `x` the first one. -/
theorem accumulated_of_history_of_edit :
    ∃ brought last tools, History "a" repeatingDirectory brought last ∧
      brought.map (List.map Tool.name) = [["flow_webhook_1"], ["transfer_call_1"]] ∧
      last.toolsAt? (.inline "a") = some tools ∧ "flow_webhook_1" ∈ tools.map Tool.name ∧
      Tool.first? tools "x" = some (.new "custom" "x") := by
  let deployer := Deployer.new "https://portal.example.com/api"
  let client : Client := ⟨"c", []⟩
  let webhook := singleFlow (.webhook (some "https://h") .post)
  let transfer := singleFlow (.transfer (some "+1") none)
  have hbegin : History "a" repeatingDirectory [] repeatingDirectory := .start
  obtain ⟨outcome, hresult, hfound⟩ : ∃ outcome,
      (deployer.run responder client "f" false (Store.empty.insert webhook)
        repeatingDirectory).result = .ok outcome ∧ outcome.degraded = none := ⟨_, rfl, rfl⟩
  have hfirst := hbegin.deploy rfl rfl hresult hfound
  let between := (deployer.run responder client "f" false (Store.empty.insert webhook)
    repeatingDirectory).remote
  obtain ⟨later, hlater, hagain⟩ : ∃ outcome,
      (deployer.run responder client "f" false (Store.empty.insert transfer)
        between).result = .ok outcome ∧ outcome.degraded = none := ⟨_, rfl, rfl⟩
  have hsecond := hfirst.deploy rfl rfl hlater hagain
  let brought := [] ++ [(deployer.build webhook.nodes client).tools] ++
    [(deployer.build transfer.nodes client).tools]
  have hnames : brought.map (List.map Tool.name) = [["flow_webhook_1"], ["transfer_call_1"]] := by
    simp only [brought, Deployer.build, Resolver.resolve_eq]
    rfl
  have hbound : repeatingDirectory.bindingOf? "a" = some (.inline "a") := rfl
  obtain ⟨-, -, tools, htools, -, hlayered⟩ :=
    accumulated_of_history hbound rfl hsecond (by simp)
  refine ⟨brought, _, tools, hsecond, hnames, htools, ?_, ?_⟩
  · have hmem : ["flow_webhook_1"] ∈ brought.map (List.map Tool.name) := by
      rw [hnames]
      exact List.mem_cons_self
    obtain ⟨layer, hlayer, hsame⟩ := List.mem_map.mp hmem
    refine (hlayered.mem_iff _).mpr ⟨layer, List.mem_cons_of_mem _ hlayer, ?_⟩
    rw [hsame]
    exact List.mem_cons_self
  · -- No deploy brought an `x`, so what the agent had decides.
    have hlast : Tool.LastWith ([.new "custom" "x", .new "custom" "y", .new "other" "x"] :: brought)
        "x" 0 [.new "custom" "x", .new "custom" "y", .new "other" "x"] := by
      refine ⟨rfl, by decide, ?_⟩
      intro other behind hother hbehind
      obtain ⟨place, rfl⟩ := Nat.exists_eq_succ_of_ne_zero (Nat.ne_of_gt hother)
      rw [List.getElem?_cons_succ] at hbehind
      have hmem := List.mem_map_of_mem (f := List.map Tool.name) (List.mem_of_getElem? hbehind)
      rw [hnames] at hmem
      rcases List.mem_pair.mp hmem with hsame | hsame
      · rw [hsame]
        decide
      · rw [hsame]
        decide
    exact hlayered.defined hlast

end CallFlow.Directory
