import CallFlow.Proofs.Script.Compile
import CallFlow.Proofs.Tool.Resolve

/-!
# Scripts and tools agree

The script of a flow and its tools are made in two passes over the nodes.  They agree: whenever a
step tells the agent to use a tool, there is one tool of that name, and a tool of a node goes where
this very node points.  Nodes that point nowhere leave no trace in the tools or in the other steps.
-/

namespace CallFlow

/-- What the step of a node says about the name of a tool, if it tells the agent to use one. -/
def Node.sentence? (node : Node) : Option (String → String) :=
  match node.kind with
  | .checkAvailability _ _ => some fun name =>
    "Check availability: use the " ++ name ++
      " tool to find open time slots, then share the available options with the caller."
  | .bookAppointment _ _ => some fun name =>
    "Book the appointment: confirm the caller's name, email, and preferred time, use the " ++
      name ++ " tool to book it, then read the confirmed details back to the caller."
  | .crmLookup _ => some fun name =>
    "Look up the caller: use the " ++ name ++ " tool with the caller's phone number."
  | .webhook (some url) _ =>
    if Text.blank url then none
    else some fun name =>
      "Collect the caller's name, phone number, email, and any notes, then use the " ++ name ++
        " tool to submit them."
  | .transfer (some number) text =>
    if Text.blank number then none
    else some fun name =>
      "Transfer the call: " ++ Step.announcement text ++ ", then use the " ++ name ++
        " tool to transfer them."
  | _ => none

/-- The tools of nodes with the providers that their script needs. -/
def Resolver.toolsOf (resolver : Resolver) (client : Client) (nodes : List Node) : List Tool :=
  resolver.resolve (Script.compile nodes).providers nodes client

/-- The script and the tools of nodes agree. -/
structure Script.Agreement (resolver : Resolver) (client : Client) (nodes : List Node) :
    Prop where
  /-- The providers are those that nodes need, in the order in which nodes need them first. -/
  providers : FirstArrivals (nodes.filterMap Node.provider?) (compile nodes).providers.toList
  /-- The tools are the bound templates of the providers and the tools of nodes. -/
  tools : resolver.toolsOf client nodes =
    ((compile nodes).providers.toList.flatMap fun provider =>
      provider.templates.map fun template => resolver.binder.bind template client) ++
        resolver.dynamicTools nodes
  /-- Every node with a target has one tool, in the order of the nodes. -/
  own : List.Forall₂ (fun node tool => Tool.Serves tool node) (nodes.filter Node.hasTarget)
    (resolver.dynamicTools nodes)
  distinct : ((resolver.toolsOf client nodes).map Tool.name).Nodup
  /-- Every step is in the script under the number of its node. -/
  printed : ∀ (i : Nat) (step : Step), (steps nodes)[i]? = some step →
    ∃ before after, (compile nodes).lines = before ++ step.lines (i + 1) ++ after
  /-- A step that tells the agent to use a tool names just one, and it serves the node. -/
  named : ∀ (i : Nat) (node : Node) (say : String → String), nodes[i]? = some node →
    node.sentence? = some say →
      ∃ tool ∈ resolver.toolsOf client nodes,
        (steps nodes)[i]?.map Step.text = some (say tool.name) ∧ tool.Serves node ∧
          ∀ other ∈ resolver.toolsOf client nodes,
            (steps nodes)[i]?.map Step.text = some (say other.name) → other = tool
  /-- A webhook or transfer without a target names no tool and takes no part in anything else. -/
  untargeted : ∀ (i : Nat) (node : Node), nodes[i]? = some node →
    node.kind.type = .webhook ∨ node.kind.type = .transfer → node.hasTarget = false →
      (∃ step, (steps nodes)[i]? = some step ∧ step.notes = [] ∧
        ∀ tool ∈ resolver.toolsOf client nodes, ∀ before after,
          step.text ≠ before ++ tool.name ++ after) ∧
      (compile (nodes.eraseIdx i)).providers = (compile nodes).providers ∧
      resolver.toolsOf client (nodes.eraseIdx i) = resolver.toolsOf client nodes ∧
      steps (nodes.eraseIdx i) = (steps nodes).eraseIdx i

/-! ## Steps that name a tool -/

/-- A sentence about a tool tells its name. -/
theorem Node.sentence_injective {node : Node} {say : String → String}
    (h : node.sentence? = some say) : Function.Injective say := by
  intro name other hsame
  obtain ⟨id, kind, next⟩ := node
  have hcancel : ∀ front back : String, front ++ name ++ back = front ++ other ++ back →
      name = other := by
    intro front back heq
    exact (String.append_right_inj front).mp ((String.append_left_inj back).mp heq)
  cases kind with
  | checkAvailability service text =>
    cases h
    exact hcancel _ _ hsame
  | bookAppointment service text =>
    cases h
    exact hcancel _ _ hsame
  | crmLookup text =>
    cases h
    exact hcancel _ _ hsame
  | webhook url method =>
    cases url with
    | none => cases h
    | some url =>
      simp only [sentence?] at h
      split at h
      · cases h
      · cases h
        exact hcancel _ _ hsame
  | transfer number text =>
    cases number with
    | none => cases h
    | some number =>
      simp only [sentence?] at h
      split at h
      · cases h
      · cases h
        exact hcancel _ _ hsame
  | _ => cases h

/-- The name in a step is one of a provider that the node needs, or it is the name that the node is
given. -/
theorem Node.exists_name {node : Node} {say : String → String} (h : node.sentence? = some say)
    (counts : ToolName.Counts) :
    ∃ name, (Step.ofKind node.kind (ToolName.assign counts node).1).text = say name ∧
      ((∃ provider, node.provider? = some provider ∧ name ∈ provider.toolNames) ∨
        (node.hasTarget = true ∧ (ToolName.assign counts node).1 = some name)) := by
  obtain ⟨id, kind, next⟩ := node
  cases kind with
  | checkAvailability service text =>
    cases h
    exact ⟨_, rfl, .inl ⟨_, rfl, Provider.scheduling_mem_toolNames _ .checkAvailability⟩⟩
  | bookAppointment service text =>
    cases h
    exact ⟨_, rfl, .inl ⟨_, rfl, Provider.scheduling_mem_toolNames _ .bookAppointment⟩⟩
  | crmLookup text =>
    cases h
    exact ⟨_, rfl, .inl ⟨_, rfl, Provider.crmLookup_mem_toolNames⟩⟩
  | webhook url method =>
    cases url with
    | none => cases h
    | some url =>
      simp only [sentence?] at h
      cases hblank : Text.blank url with
      | true => simp [hblank] at h
      | false =>
        rw [hblank] at h
        cases h
        rw [ToolName.assign_webhook counts id url method next hblank]
        exact ⟨_, rfl, .inr ⟨by simp [hasTarget, hblank], rfl⟩⟩
  | transfer number text =>
    cases number with
    | none => cases h
    | some number =>
      simp only [sentence?] at h
      cases hblank : Text.blank number with
      | true => simp [hblank] at h
      | false =>
        rw [hblank] at h
        cases h
        rw [ToolName.assign_transfer counts id number text next hblank]
        exact ⟨_, rfl, .inr ⟨by simp [hasTarget, hblank], rfl⟩⟩
  | _ => cases h

/-- A node that needs the tools of a provider sends nobody anywhere. -/
theorem Tool.serves_of_provider? {node : Node} {provider : Provider}
    (h : node.provider? = some provider) (tool : Tool) : tool.Serves node where
  webhook := by
    intro url method hkind
    simp [Node.provider?, hkind] at h
  transfer := by
    intro number text hkind
    simp [Node.provider?, hkind] at h

namespace Resolver

theorem toolsOf_eq (resolver : Resolver) (client : Client) (nodes : List Node) :
    resolver.toolsOf client nodes =
      resolver.providerTools (Script.compile nodes).providers.toList client ++
        resolver.dynamicTools nodes :=
  resolver.resolve_eq ..

theorem nodup_names_toolsOf (resolver : Resolver) (client : Client) (nodes : List Node) :
    ((resolver.toolsOf client nodes).map Tool.name).Nodup := by
  rw [toolsOf_eq]
  exact resolver.nodup_names (Script.compile nodes).providers.distinct nodes client

/-- Every name of a provider that some node needs is the name of a tool. -/
theorem exists_mem_of_provider? (resolver : Resolver) (client : Client) {nodes : List Node}
    {node : Node} (hnode : node ∈ nodes) {provider : Provider}
    (hprovider : node.provider? = some provider) {name : String}
    (hname : name ∈ provider.toolNames) :
    ∃ tool ∈ resolver.toolsOf client nodes, tool.name = name := by
  have hneeded : provider ∈ (Script.compile nodes).providers.toList := by
    rw [Script.providers_compile, (ProviderSet.firstArrivals_ofList _).mem_iff]
    exact List.mem_filterMap.mpr ⟨node, hnode, hprovider⟩
  have hmem : name ∈ (resolver.providerTools (Script.compile nodes).providers.toList client).map
      Tool.name := by
    rw [names_providerTools]
    exact List.mem_flatMap.mpr ⟨provider, hneeded, hname⟩
  obtain ⟨tool, htool, hsame⟩ := List.mem_map.mp hmem
  refine ⟨tool, ?_, hsame⟩
  rw [toolsOf_eq]
  exact List.mem_append_left _ htool

/-- A step that tells the agent to use a tool names a tool, and the tool serves the node. -/
theorem exists_named (resolver : Resolver) (client : Client) (front back : List Node)
    {node : Node} {say : String → String} (h : node.sentence? = some say) :
    ∃ tool ∈ resolver.toolsOf client (front ++ node :: back),
      (Script.steps (front ++ node :: back))[front.length]?.map Step.text =
        some (say tool.name) ∧ tool.Serves node := by
  obtain ⟨name, htext, hname⟩ := Node.exists_name h (ToolName.Counts.after ⟨0, 0⟩ front)
  rw [Script.getElem?_steps, Option.map_some, htext]
  rcases hname with ⟨provider, hprovider, hname⟩ | ⟨htarget, hname⟩
  · obtain ⟨tool, htool, rfl⟩ :=
      resolver.exists_mem_of_provider? client (List.mem_append_right front List.mem_cons_self)
        hprovider hname
    exact ⟨tool, htool, rfl, Tool.serves_of_provider? hprovider tool⟩
  · obtain ⟨tool, htool, hsame, hserves⟩ := resolver.exists_mem_dynamicTools htarget
    rw [hname, Option.some.injEq] at hsame
    subst hsame
    refine ⟨tool, ?_, rfl, hserves⟩
    rw [toolsOf_eq]
    exact List.mem_append_right _ htool

end Resolver

/-! ## Nodes without a target -/

/-- The step of a webhook or transfer that was given no name is one sentence without a name. -/
theorem Step.ofKind_none {node : Node}
    (h : node.kind.type = .webhook ∨ node.kind.type = .transfer) :
    ∃ text, Step.ofKind node.kind none = Step.plain text ∧ '_' ∉ text.toList := by
  obtain ⟨id, kind, next⟩ := node
  cases kind with
  | webhook url method => exact ⟨_, rfl, by decide⟩
  | transfer number text => exact ⟨_, rfl, by decide⟩
  | _ => simp [NodeKind.type] at h

theorem Node.provider?_eq_none {node : Node}
    (h : node.kind.type = .webhook ∨ node.kind.type = .transfer) : node.provider? = none := by
  obtain ⟨id, kind, next⟩ := node
  cases kind <;> simp_all [NodeKind.type, provider?]

theorem Script.providers_compile_of_untargeted (front back : List Node) {node : Node}
    (h : node.kind.type = .webhook ∨ node.kind.type = .transfer) :
    (compile (front ++ node :: back)).providers = (compile (front ++ back)).providers := by
  rw [providers_compile, providers_compile, List.filterMap_append,
    List.filterMap_cons_none (Node.provider?_eq_none h), List.filterMap_append]

theorem Script.steps_of_not_hasTarget (front back : List Node) {node : Node}
    (h : node.hasTarget = false) :
    steps (front ++ back) = (steps (front ++ node :: back)).eraseIdx front.length := by
  rw [steps_append_cons, ToolName.assign_of_not_hasTarget _ h]
  have hlength := length_stepsFrom ⟨0, 0⟩ front
  rw [List.eraseIdx_append_of_length_le (Nat.le_of_eq hlength), hlength, Nat.sub_self,
    List.eraseIdx_cons_zero, ← stepsFrom_append]
  rfl

/-- Scripts and tools agree for every list of nodes, every client, and however tools are bound. -/
theorem Script.agreement_compile (resolver : Resolver) (client : Client) (nodes : List Node) :
    Script.Agreement resolver client nodes where
  providers := by
    rw [providers_compile]
    exact ProviderSet.firstArrivals_ofList _
  tools := resolver.toolsOf_eq client nodes
  own := resolver.forall₂_dynamicToolsFrom ⟨0, 0⟩ nodes
  distinct := resolver.nodup_names_toolsOf client nodes
  printed := fun i step hstep => exists_lines_compile hstep
  named := by
    intro i node say hnode hsay
    obtain ⟨front, back, rfl, rfl⟩ := exists_append_of_getElem? hnode
    obtain ⟨tool, htool, htext, hserves⟩ := resolver.exists_named client front back hsay
    refine ⟨tool, htool, htext, hserves, ?_⟩
    intro other hother hsame
    have hsays : say tool.name = say other.name := Option.some.inj (htext.symm.trans hsame)
    have hnames := Node.sentence_injective hsay hsays
    exact List.inj_on_of_nodup_map (resolver.nodup_names_toolsOf client _) hother htool hnames.symm
  untargeted := by
    intro i node hnode hkind htarget
    obtain ⟨front, back, rfl, rfl⟩ := exists_append_of_getElem? hnode
    have herase : (front ++ node :: back).eraseIdx front.length = front ++ back := by
      rw [List.eraseIdx_append_of_length_le (Nat.le_refl _), Nat.sub_self, List.eraseIdx_cons_zero]
    rw [herase]
    refine ⟨?_, (providers_compile_of_untargeted front back hkind).symm, ?_,
      steps_of_not_hasTarget front back htarget⟩
    · rw [getElem?_steps, ToolName.assign_of_not_hasTarget _ htarget]
      obtain ⟨text, hstep, hunderscore⟩ := Step.ofKind_none hkind
      refine ⟨_, rfl, by rw [hstep]; rfl, ?_⟩
      rintro tool htool before after htext
      rw [hstep] at htext
      have hname : '_' ∈ tool.name.toList := Resolver.underscore_mem_of_mem_resolve htool
      apply hunderscore
      rw [show text = before ++ tool.name ++ after from htext]
      simp [hname]
    · rw [Resolver.toolsOf_eq, Resolver.toolsOf_eq,
        providers_compile_of_untargeted front back hkind,
        resolver.dynamicTools_of_not_hasTarget front back htarget]

end CallFlow
