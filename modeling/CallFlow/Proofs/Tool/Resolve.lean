import Mathlib.Data.List.Forall2
import CallFlow.Proofs.Arrivals
import CallFlow.Proofs.Json.Members
import CallFlow.Proofs.Tool.Name

/-!
# The tools of a flow

The tools of a flow are those of its providers and those of its nodes.  All their names are
different, so none of them is lost when they are collected in a set; and each tool of a node goes
where the author of the node sends it.
-/

namespace CallFlow

open Json

namespace Tool

@[simp]
theorem field?_withField (tool : Tool) (key other : String) (value : Json) :
    (tool.withField key value).field? other =
      if other = key then some value else tool.field? other :=
  Members.get?_insert ..

@[simp]
theorem field?_withDescription (tool : Tool) (description key : String) :
    (tool.withDescription description).field? key = tool.field? key :=
  rfl

@[simp]
theorem field?_withParameters (tool : Tool) (schema : ParameterSchema) (key : String) :
    (tool.withParameters schema).field? key = tool.field? key :=
  rfl

@[simp]
theorem field?_withTimeoutMs (tool : Tool) (timeoutMs : UInt64) (key : String) :
    (tool.withTimeoutMs timeoutMs).field? key = tool.field? key :=
  rfl

/-- A tool goes where the author of a node sends it: to the trimmed address by the method of a
webhook, to the trimmed number of a transfer. -/
structure Serves (tool : Tool) (node : Node) : Prop where
  webhook : ∀ url method, node.kind = .webhook (some url) method →
    tool.kind = customKind ∧ tool.fieldText? "url" = some (Text.trim url) ∧
      tool.fieldText? "method" = some method.name
  transfer : ∀ number text, node.kind = .transfer (some number) text →
    tool.kind = transferKind ∧
      tool.field? "transfer_destination" =
        some (.object [("number", .string (Text.trim number)), ("type", .string "predefined")])

end Tool

namespace Resolver

theorem serves_webhookTool (resolver : Resolver) (name : String) {node : Node} {url : String}
    {method : WebhookMethod} (hkind : node.kind = .webhook (some url) method) :
    (resolver.webhookTool name (Text.trim url) method).Serves node where
  webhook := by
    rintro other action hother
    rw [hkind] at hother
    cases hother
    refine ⟨rfl, ?_, ?_⟩ <;>
      simp [webhookTool, Tool.speaksWhileWorking, Tool.fieldText?, Json.asString?]
  transfer := by
    rintro number text hother
    rw [hkind] at hother
    cases hother

theorem serves_transferTool (name : String) {node : Node} {number : String}
    {text : Option String} (hkind : node.kind = .transfer (some number) text) :
    (transferTool name (Text.trim number)).Serves node where
  webhook := by
    rintro url method hother
    rw [hkind] at hother
    cases hother
  transfer := by
    rintro other words hother
    rw [hkind] at hother
    cases hother
    exact ⟨rfl, by simp [transferTool]⟩

/-! ## The tools of nodes -/

/-- The tools of nodes of their own, given the counts in front of them. -/
def dynamicToolsFrom (resolver : Resolver) (counts : ToolName.Counts) (nodes : List Node) :
    List Tool :=
  (List.zipWith resolver.dynamicTool nodes (ToolName.dynamicFrom counts nodes)).filterMap id

theorem dynamicTool_of_not_hasTarget (resolver : Resolver) {node : Node}
    (h : node.hasTarget = false) (name : Option String) :
    resolver.dynamicTool node name = none := by
  have hnone := ToolName.assign_of_not_hasTarget ⟨0, 0⟩ h
  cases hwebhook : node.webhookTarget with
  | some target => simp [ToolName.assign, hwebhook] at hnone
  | none =>
    cases htransfer : node.transferTarget with
    | some number => simp [ToolName.assign, hwebhook, htransfer] at hnone
    | none => cases name <;> simp [dynamicTool, hwebhook, htransfer]

/-- A node with a target has a tool of the name that it is given. -/
theorem exists_dynamicTool (resolver : Resolver) (counts : ToolName.Counts) {node : Node}
    (h : node.hasTarget = true) :
    ∃ tool : Tool, (ToolName.assign counts node).1 = some tool.name ∧
      resolver.dynamicTool node (some tool.name) = some tool ∧ tool.Serves node := by
  obtain ⟨id, kind, next⟩ := node
  rcases Node.hasTarget_cases h with ⟨url, method, rfl, hblank⟩ | ⟨number, text, rfl, hblank⟩
  · rw [ToolName.assign_webhook counts id url method next hblank]
    refine ⟨_, rfl, ?_, resolver.serves_webhookTool _ rfl⟩
    simp [dynamicTool, Node.webhookTarget, Text.nonBlank, hblank]
    rfl
  · rw [ToolName.assign_transfer counts id number text next hblank]
    refine ⟨_, rfl, ?_, serves_transferTool _ rfl⟩
    simp [dynamicTool, Node.webhookTarget, Node.transferTarget, Text.nonBlank, hblank]
    rfl

theorem dynamicToolsFrom_cons_of_not_hasTarget (resolver : Resolver)
    (counts : ToolName.Counts) {node : Node} (h : node.hasTarget = false) (nodes : List Node) :
    resolver.dynamicToolsFrom counts (node :: nodes) = resolver.dynamicToolsFrom counts nodes := by
  rw [dynamicToolsFrom, ToolName.dynamicFrom, List.zipWith_cons_cons,
    resolver.dynamicTool_of_not_hasTarget h, ToolName.assign_of_not_hasTarget counts h]
  rfl

theorem dynamicToolsFrom_cons_of_hasTarget (resolver : Resolver) (counts : ToolName.Counts)
    {node : Node} (h : node.hasTarget = true) (nodes : List Node) :
    ∃ tool : Tool, (ToolName.assign counts node).1 = some tool.name ∧ tool.Serves node ∧
      resolver.dynamicToolsFrom counts (node :: nodes) =
        tool :: resolver.dynamicToolsFrom (ToolName.assign counts node).2 nodes := by
  obtain ⟨tool, hname, htool, hserves⟩ := resolver.exists_dynamicTool counts h
  refine ⟨tool, hname, hserves, ?_⟩
  rw [dynamicToolsFrom, ToolName.dynamicFrom, List.zipWith_cons_cons, hname, htool]
  rfl

theorem dynamicToolsFrom_append (resolver : Resolver) (counts : ToolName.Counts)
    (front back : List Node) :
    resolver.dynamicToolsFrom counts (front ++ back) =
      resolver.dynamicToolsFrom counts front ++
        resolver.dynamicToolsFrom (counts.after front) back := by
  rw [dynamicToolsFrom, ToolName.dynamicFrom_append,
    List.zipWith_append (ToolName.length_dynamicFrom counts front).symm, List.filterMap_append]
  rfl

/-- The names of the tools are the names that are given out. -/
theorem names_dynamicToolsFrom (resolver : Resolver) (counts : ToolName.Counts)
    (nodes : List Node) :
    (resolver.dynamicToolsFrom counts nodes).map Tool.name =
      (ToolName.dynamicFrom counts nodes).filterMap id := by
  induction nodes generalizing counts with
  | nil => rfl
  | cons node nodes ih =>
    cases htarget : node.hasTarget with
    | false =>
      rw [resolver.dynamicToolsFrom_cons_of_not_hasTarget counts htarget, ih, ToolName.dynamicFrom,
        ToolName.assign_of_not_hasTarget counts htarget]
      rfl
    | true =>
      obtain ⟨tool, hname, -, hcons⟩ :=
        resolver.dynamicToolsFrom_cons_of_hasTarget counts htarget nodes
      rw [hcons, List.map_cons, ih, ToolName.dynamicFrom, hname]
      rfl

/-- There is one tool for each node with a target, in the order of the nodes. -/
theorem forall₂_dynamicToolsFrom (resolver : Resolver) (counts : ToolName.Counts)
    (nodes : List Node) :
    List.Forall₂ (fun node tool => Tool.Serves tool node) (nodes.filter Node.hasTarget)
      (resolver.dynamicToolsFrom counts nodes) := by
  induction nodes generalizing counts with
  | nil => exact .nil
  | cons node nodes ih =>
    cases htarget : node.hasTarget with
    | false =>
      rw [resolver.dynamicToolsFrom_cons_of_not_hasTarget counts htarget,
        List.filter_cons_of_neg (by simp [htarget])]
      exact ih counts
    | true =>
      obtain ⟨tool, -, hserves, hcons⟩ :=
        resolver.dynamicToolsFrom_cons_of_hasTarget counts htarget nodes
      rw [hcons, List.filter_cons_of_pos htarget]
      exact .cons hserves (ih _)

/-- The tool of a node within a list has the name that the node is given there. -/
theorem exists_mem_dynamicTools (resolver : Resolver) {front back : List Node} {node : Node}
    (h : node.hasTarget = true) :
    ∃ tool ∈ resolver.dynamicTools (front ++ node :: back),
      (ToolName.assign (ToolName.Counts.after ⟨0, 0⟩ front) node).1 = some tool.name ∧
        tool.Serves node := by
  obtain ⟨tool, hname, hserves, hcons⟩ :=
    resolver.dynamicToolsFrom_cons_of_hasTarget (ToolName.Counts.after ⟨0, 0⟩ front) h back
  refine ⟨tool, ?_, hname, hserves⟩
  change tool ∈ resolver.dynamicToolsFrom ⟨0, 0⟩ (front ++ node :: back)
  rw [dynamicToolsFrom_append, hcons]
  simp

/-- A node without a target has no part in the tools. -/
theorem dynamicTools_of_not_hasTarget (resolver : Resolver) (front back : List Node)
    {node : Node} (h : node.hasTarget = false) :
    resolver.dynamicTools (front ++ node :: back) = resolver.dynamicTools (front ++ back) := by
  change resolver.dynamicToolsFrom ⟨0, 0⟩ _ = resolver.dynamicToolsFrom ⟨0, 0⟩ _
  rw [dynamicToolsFrom_append, dynamicToolsFrom_append,
    resolver.dynamicToolsFrom_cons_of_not_hasTarget _ h]

/-! ## All tools -/

theorem names_providerTools (resolver : Resolver) (providers : List Provider) (client : Client) :
    (resolver.providerTools providers client).map Tool.name =
      providers.flatMap Provider.toolNames := by
  simp only [providerTools, List.map_flatMap, List.map_map]
  rfl

theorem nodup_names_providerTools (resolver : Resolver) {providers : List Provider}
    (hdistinct : providers.Nodup) (client : Client) :
    ((resolver.providerTools providers client).map Tool.name).Nodup := by
  rw [names_providerTools, List.nodup_flatMap]
  refine ⟨fun provider _ => provider.nodup_toolNames, hdistinct.imp ?_⟩
  intro provider other hne name hname hother
  exact hne (Provider.eq_of_mem_toolNames hname hother)

theorem beyond_of_mem_dynamicTools {resolver : Resolver} {nodes : List Node} {tool : Tool}
    (h : tool ∈ resolver.dynamicTools nodes) : ToolName.Beyond ⟨0, 0⟩ tool.name := by
  have hname : tool.name ∈ (resolver.dynamicToolsFrom ⟨0, 0⟩ nodes).map Tool.name :=
    List.mem_map_of_mem h
  rw [names_dynamicToolsFrom, List.mem_filterMap] at hname
  obtain ⟨found, hfound, rfl⟩ := hname
  exact ToolName.beyond_of_mem hfound

/-- All tools of a flow have different names. -/
theorem nodup_names (resolver : Resolver) {providers : List Provider}
    (hdistinct : providers.Nodup) (nodes : List Node) (client : Client) :
    ((resolver.providerTools providers client ++ resolver.dynamicTools nodes).map
      Tool.name).Nodup := by
  rw [List.map_append, List.nodup_append]
  refine ⟨resolver.nodup_names_providerTools hdistinct client, ?_, ?_⟩
  · rw [show resolver.dynamicTools nodes = resolver.dynamicToolsFrom ⟨0, 0⟩ nodes from rfl,
      names_dynamicToolsFrom]
    exact ToolName.nodup_dynamicFrom _ nodes
  · rintro name hname other hother rfl
    rw [names_providerTools, List.mem_flatMap] at hname
    obtain ⟨provider, -, hname⟩ := hname
    obtain ⟨tool, htool, rfl⟩ := List.mem_map.mp hother
    have hinitial := Provider.initial_of_mem_toolNames hname
    rcases (beyond_of_mem_dynamicTools htool).initial with h | h
    · exact hinitial.1 h
    · exact hinitial.2 h

/-- No tool of a flow is lost. -/
theorem resolve_eq (resolver : Resolver) (providers : ProviderSet) (nodes : List Node)
    (client : Client) :
    resolver.resolve providers nodes client =
      resolver.providerTools providers.toList client ++ resolver.dynamicTools nodes :=
  ToolSet.tools_ofList (resolver.nodup_names providers.distinct nodes client)

theorem underscore_mem_of_mem_resolve {resolver : Resolver} {providers : ProviderSet}
    {nodes : List Node} {client : Client} {tool : Tool}
    (h : tool ∈ resolver.resolve providers nodes client) : '_' ∈ tool.name.toList := by
  rw [resolve_eq, List.mem_append] at h
  rcases h with h | h
  · have hname := List.mem_map_of_mem (f := Tool.name) h
    rw [names_providerTools, List.mem_flatMap] at hname
    obtain ⟨provider, -, hname⟩ := hname
    exact Provider.underscore_mem_of_mem_toolNames hname
  · exact (beyond_of_mem_dynamicTools h).underscore_mem

end Resolver

end CallFlow
