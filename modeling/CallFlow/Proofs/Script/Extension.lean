import CallFlow.Proofs.Script.Layout
import CallFlow.Proofs.Tool.Resolve

/-!
# Appending nodes

Nodes that are appended to a list leave what was compiled for it in place.  The numbers of steps, the
counts of named tools and the set of providers all depend on the nodes in front only; so the lines of
the script up to its closing block, the providers, the names and the tools of nodes are prefixes of
those of the longer list.
-/

namespace CallFlow

open Text

/-! ## Providers -/

namespace ProviderSet

theorem toList_prefix_insert (set : ProviderSet) (provider : Provider) :
    set.toList <+: (set.insert provider).toList := by
  rw [insert]
  split
  · exact List.prefix_refl _
  · exact List.prefix_append _ _

theorem toList_prefix_insertAll (set : ProviderSet) (providers : List Provider) :
    set.toList <+: (set.insertAll providers).toList := by
  induction providers generalizing set with
  | nil => exact List.prefix_refl _
  | cons provider providers ih =>
    exact (set.toList_prefix_insert provider).trans (ih (set.insert provider))

theorem toList_ofList_prefix_append (front back : List Provider) :
    (ofList front).toList <+: (ofList (front ++ back)).toList := by
  have hsplit : ofList (front ++ back) = (ofList front).insertAll back :=
    List.foldl_append
  rw [hsplit]
  exact toList_prefix_insertAll _ back

end ProviderSet

/-! ## Names and tools of nodes -/

theorem ToolName.dynamic_prefix_append (nodes more : List Node) :
    dynamic nodes <+: dynamic (nodes ++ more) := by
  rw [dynamic, dynamic, dynamicFrom_append]
  exact List.prefix_append _ _

namespace Resolver

/-- The tools that a client gets for nodes, without those of the providers: the ones that go by a name
of a node. -/
def ownTools (resolver : Resolver) (nodes : List Node) (client : Client) : List Tool :=
  (resolver.resolve (Script.compile nodes).providers nodes client).filter fun tool =>
    (ToolName.dynamic nodes).contains (some tool.name)

theorem contains_dynamic_of_mem_dynamicTools {resolver : Resolver} {nodes : List Node} {tool : Tool}
    (h : tool ∈ resolver.dynamicTools nodes) :
    (ToolName.dynamic nodes).contains (some tool.name) = true := by
  have hname : tool.name ∈ (resolver.dynamicToolsFrom ⟨0, 0⟩ nodes).map Tool.name :=
    List.mem_map_of_mem h
  rw [names_dynamicToolsFrom, List.mem_filterMap] at hname
  obtain ⟨found, hfound, hsame⟩ := hname
  obtain rfl : found = some tool.name := hsame
  exact List.contains_iff_mem.mpr hfound

theorem contains_dynamic_of_mem_providerTools {resolver : Resolver} {providers : List Provider}
    {client : Client} {tool : Tool} (h : tool ∈ resolver.providerTools providers client)
    (nodes : List Node) : (ToolName.dynamic nodes).contains (some tool.name) = false := by
  have hname : tool.name ∈ (resolver.providerTools providers client).map Tool.name :=
    List.mem_map_of_mem h
  rw [names_providerTools, List.mem_flatMap] at hname
  obtain ⟨provider, -, hname⟩ := hname
  have hinitial := Provider.initial_of_mem_toolNames hname
  rw [← Bool.not_eq_true, List.contains_iff_mem]
  intro hmem
  rcases (ToolName.beyond_of_mem hmem).initial with hwebhook | htransfer
  · exact hinitial.1 hwebhook
  · exact hinitial.2 htransfer

theorem ownTools_eq (resolver : Resolver) (nodes : List Node) (client : Client) :
    resolver.ownTools nodes client = resolver.dynamicTools nodes := by
  have hproviders : ∀ tool ∈ resolver.providerTools (Script.compile nodes).providers.toList client,
      ¬ (ToolName.dynamic nodes).contains (some tool.name) = true := by
    intro tool htool
    rw [contains_dynamic_of_mem_providerTools htool]
    exact Bool.false_ne_true
  rw [ownTools, resolve_eq, List.filter_append, List.filter_eq_nil_iff.mpr hproviders,
    List.filter_eq_self.mpr fun tool => contains_dynamic_of_mem_dynamicTools, List.nil_append]

theorem ownTools_prefix_append (resolver : Resolver) (nodes more : List Node) (client : Client) :
    resolver.ownTools nodes client <+: resolver.ownTools (nodes ++ more) client := by
  have hsplit : resolver.dynamicTools (nodes ++ more) = resolver.dynamicTools nodes ++
      resolver.dynamicToolsFrom (ToolName.Counts.after ⟨0, 0⟩ nodes) more :=
    resolver.dynamicToolsFrom_append ⟨0, 0⟩ nodes more
  rw [ownTools_eq, ownTools_eq, hsplit]
  exact List.prefix_append _ _

end Resolver

/-! ## Lines -/

namespace Script

/-- The lines of a script's text in front of its closing block, which is an empty line, the heading of
the guidelines and everything behind it. -/
def openLines (text : String) : List String :=
  ((cutAtLineFeeds text).takeWhile (· != "## Guidelines")).dropLast

theorem ne_guidelines_of_mem {nodes : List Node} {line : String}
    (h : line ∈ heading ++ stepLines 1 (steps nodes) ++ [""]) : line ≠ "## Guidelines" := by
  intro htitle
  subst htitle
  rw [List.append_assoc, List.mem_append, List.mem_append, ← flatten_blocks] at h
  rcases h with h | h | h
  · exact absurd h (by decide +kernel)
  · exact not_mem_flatten_blocks rfl h
  · exact absurd h (by decide +kernel)

theorem openLines_text_compile {nodes : List Node} (hne : nodes ≠ []) :
    openLines (compile nodes).text = heading ++ stepLines 1 (steps nodes) := by
  have hsplit : heading ++ stepLines 1 (steps nodes) ++ ending =
      (heading ++ stepLines 1 (steps nodes) ++ [""]) ++
        "## Guidelines" :: guidelines.map ("- " ++ ·) := by
    rw [ending, List.append_assoc _ [""]]
    rfl
  have hfront : ∀ line ∈ heading ++ stepLines 1 (steps nodes) ++ [""],
      (line != "## Guidelines") = true := by
    intro line hline
    exact bne_iff_ne.mpr (ne_guidelines_of_mem hline)
  rw [openLines, cutAtLineFeeds_text_compile hne, lines_compile hne, hsplit,
    List.takeWhile_append_of_pos hfront, List.takeWhile_cons_of_neg (by simp), List.append_nil,
    List.dropLast_concat]

theorem stepLines_prefix_append (nodes more : List Node) :
    stepLines 1 (steps nodes) <+: stepLines 1 (steps (nodes ++ more)) := by
  have hsteps : steps (nodes ++ more) =
      steps nodes ++ stepsFrom (ToolName.Counts.after ⟨0, 0⟩ nodes) more :=
    stepsFrom_append ⟨0, 0⟩ nodes more
  rw [hsteps, stepLines_append]
  exact List.prefix_append _ _

/-- Appending nodes never disturbs what is compiled already.  The script of the shorter list is its
open lines and the ending, and these open lines, the providers, the names of tools and the tools of
nodes begin those of the longer list. -/
theorem undisturbed_append (nodes more : List Node) (hne : nodes ≠ []) :
    cutAtLineFeeds (compile nodes).text = openLines (compile nodes).text ++ ending ∧
      openLines (compile nodes).text <+: cutAtLineFeeds (compile (nodes ++ more)).text ∧
      (compile nodes).providers.toList <+: (compile (nodes ++ more)).providers.toList ∧
      ToolName.dynamic nodes <+: ToolName.dynamic (nodes ++ more) ∧
      ∀ (resolver : Resolver) (client : Client),
        resolver.ownTools nodes client <+: resolver.ownTools (nodes ++ more) client := by
  have hlonger : nodes ++ more ≠ [] := List.append_ne_nil_of_left_ne_nil hne more
  refine ⟨?_, ?_, ?_, ToolName.dynamic_prefix_append nodes more, ?_⟩
  · rw [openLines_text_compile hne, cutAtLineFeeds_text_compile hne, lines_compile hne]
  · rw [openLines_text_compile hne, cutAtLineFeeds_text_compile hlonger, lines_compile hlonger,
      List.append_assoc, List.prefix_append_right_inj]
    exact (stepLines_prefix_append nodes more).trans (List.prefix_append _ _)
  · rw [providers_compile, providers_compile, List.filterMap_append]
    exact ProviderSet.toList_ofList_prefix_append _ _
  · intro resolver client
    exact resolver.ownTools_prefix_append nodes more client

/-- A webhook and a look-up that call for tools, and behind them nodes that call for more tools and
name the provider again. -/
theorem undisturbed_append_of_webhooks :
    let nodes : List Node := [.ofKind "a" (.webhook (some "https://a") .post),
      .ofKind "b" (.crmLookup (some "## Guidelines"))]
    let more : List Node := [.ofKind "c" (.webhook (some "https://b") .get),
      .ofKind "d" (.crmLookup none), .ofKind "e" (.checkAvailability none none)]
    nodes ≠ [] ∧
      openLines (compile nodes).text <+: cutAtLineFeeds (compile (nodes ++ more)).text ∧
      [some "flow_webhook_1", none] <+: ToolName.dynamic (nodes ++ more) ∧
      [Provider.crm] <+: (compile (nodes ++ more)).providers.toList := by
  intro nodes more
  have hne : nodes ≠ [] := List.cons_ne_nil _ _
  obtain ⟨-, hlines, hproviders, hnames, -⟩ := undisturbed_append nodes more hne
  exact ⟨hne, hlines, hnames, hproviders⟩

end Script

end CallFlow
