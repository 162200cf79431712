import Mathlib.Data.List.Nodup
import CallFlow.Tool.Resolve

/-!
# The names of tools

The tools of nodes are numbered, webhooks and transfers apart; the tools of providers have fixed
names.  No two of these names are the same: the first letter tells webhooks, transfers and the
tools of providers apart, a number is read back from its decimals, and within a list of nodes each
kind is counted upwards.

The counts in front of a list of nodes are a parameter throughout, so that a list can be taken apart
at any node.
-/

namespace CallFlow

/-! ## Single names -/

theorem toString_injective : Function.Injective fun n : Nat => toString n := by
  intro m n h
  have hdigits : Nat.toDigits 10 m = Nat.toDigits 10 n := by
    simpa using congrArg String.toList h
  rw [← Nat.ofDigitChars_ten_toDigits (n := m), hdigits, Nat.ofDigitChars_ten_toDigits]

namespace ToolName

/-- The first letter of a name. -/
def initial (name : String) : Option Char :=
  name.toList.head?

@[simp]
theorem initial_webhook (n : Nat) : initial (webhook n) = some 'f' := by
  simp [initial, webhook]

@[simp]
theorem initial_transfer (n : Nat) : initial (transfer n) = some 't' := by
  simp [initial, transfer]

theorem webhook_injective : Function.Injective webhook := by
  intro m n h
  exact toString_injective ((String.append_right_inj _).mp h)

theorem transfer_injective : Function.Injective transfer := by
  intro m n h
  exact toString_injective ((String.append_right_inj _).mp h)

theorem webhook_ne_transfer (m n : Nat) : webhook m ≠ transfer n := by
  intro h
  have hinitial := congrArg initial h
  simp at hinitial

theorem underscore_mem_webhook (n : Nat) : '_' ∈ (webhook n).toList := by
  simp [webhook]

theorem underscore_mem_transfer (n : Nat) : '_' ∈ (transfer n).toList := by
  simp [transfer]

end ToolName

namespace Provider

/-- The names of the tools of a provider. -/
def toolNames (provider : Provider) : List String :=
  provider.templates.map Tool.name

theorem nodup_toolNames (provider : Provider) : provider.toolNames.Nodup := by
  cases provider <;> decide

/-- The name of a tool of a provider tells the provider. -/
theorem eq_of_mem_toolNames {provider other : Provider} {name : String}
    (h : name ∈ provider.toolNames) (hother : name ∈ other.toolNames) : provider = other := by
  have hall : ∀ name ∈ provider.toolNames, name ∈ other.toolNames → provider = other := by
    cases provider <;> cases other <;> decide
  exact hall name h hother

theorem initial_of_mem_toolNames {provider : Provider} {name : String}
    (h : name ∈ provider.toolNames) :
    ToolName.initial name ≠ some 'f' ∧ ToolName.initial name ≠ some 't' := by
  have hall : ∀ name ∈ provider.toolNames,
      ToolName.initial name ≠ some 'f' ∧ ToolName.initial name ≠ some 't' := by
    cases provider <;> decide
  exact hall name h

theorem underscore_mem_of_mem_toolNames {provider : Provider} {name : String}
    (h : name ∈ provider.toolNames) : '_' ∈ name.toList := by
  have hall : ∀ name ∈ provider.toolNames, '_' ∈ name.toList := by
    cases provider <;> decide
  exact hall name h

theorem scheduling_mem_toolNames (service : SchedulingProvider) (action : SchedulingAction) :
    ToolName.scheduling service action ∈ (ofScheduling service).toolNames := by
  cases service <;> cases action <;> decide

theorem crmLookup_mem_toolNames : ToolName.crmLookup ∈ crm.toolNames := by
  decide

end Provider

/-! ## Numbering nodes -/

/-- Whether a node is a webhook with an address or a transfer with a number. -/
def Node.hasTarget (node : Node) : Bool :=
  match node.kind with
  | .webhook (some url) _ => !Text.blank url
  | .transfer (some number) _ => !Text.blank number
  | _ => false

/-- A node with a target is a webhook or a transfer. -/
theorem Node.hasTarget_cases {node : Node} (h : node.hasTarget = true) :
    (∃ url method, node.kind = .webhook (some url) method ∧ Text.blank url = false) ∨
    (∃ number text, node.kind = .transfer (some number) text ∧ Text.blank number = false) := by
  obtain ⟨id, kind, next⟩ := node
  cases kind with
  | webhook url method =>
    cases url with
    | none => cases h
    | some url => exact .inl ⟨url, method, rfl, by simpa [hasTarget] using h⟩
  | transfer number text =>
    cases number with
    | none => cases h
    | some number => exact .inr ⟨number, text, rfl, by simpa [hasTarget] using h⟩
  | _ => cases h

namespace ToolName

/-- The counts behind nodes, given the counts in front of them. -/
def Counts.after (counts : Counts) (nodes : List Node) : Counts :=
  nodes.foldl (fun counts node => (assign counts node).2) counts

theorem assign_of_not_hasTarget (counts : Counts) {node : Node} (h : node.hasTarget = false) :
    assign counts node = (none, counts) := by
  obtain ⟨id, kind, next⟩ := node
  cases kind with
  | webhook url method =>
    cases url with
    | none => rfl
    | some url =>
      have hblank : Text.blank url = true := by simpa [Node.hasTarget] using h
      simp [assign, Node.webhookTarget, Node.transferTarget, Text.nonBlank, hblank]
  | transfer number text =>
    cases number with
    | none => rfl
    | some number =>
      have hblank : Text.blank number = true := by simpa [Node.hasTarget] using h
      simp [assign, Node.webhookTarget, Node.transferTarget, Text.nonBlank, hblank]
  | _ => rfl

theorem assign_webhook (counts : Counts) (id url : String) (method : WebhookMethod)
    (next : Option String) (h : Text.blank url = false) :
    assign counts ⟨id, .webhook (some url) method, next⟩ =
      (some (webhook (counts.webhooks + 1)),
        { counts with webhooks := counts.webhooks + 1 }) := by
  simp [assign, Node.webhookTarget, Text.nonBlank, h]

theorem assign_transfer (counts : Counts) (id number : String) (text next : Option String)
    (h : Text.blank number = false) :
    assign counts ⟨id, .transfer (some number) text, next⟩ =
      (some (transfer (counts.transfers + 1)),
        { counts with transfers := counts.transfers + 1 }) := by
  simp [assign, Node.webhookTarget, Node.transferTarget, Text.nonBlank, h]

theorem dynamicFrom_append (counts : Counts) (front back : List Node) :
    dynamicFrom counts (front ++ back) =
      dynamicFrom counts front ++ dynamicFrom (counts.after front) back := by
  induction front generalizing counts with
  | nil => rfl
  | cons node front ih =>
    rw [List.cons_append, dynamicFrom, dynamicFrom, ih, List.cons_append]
    rfl

theorem length_dynamicFrom (counts : Counts) (nodes : List Node) :
    (dynamicFrom counts nodes).length = nodes.length := by
  induction nodes generalizing counts with
  | nil => rfl
  | cons node nodes ih => rw [dynamicFrom, List.length_cons, ih, List.length_cons]

/-- A name whose number is above the counts. -/
def Beyond (counts : Counts) (name : String) : Prop :=
  (∃ n, counts.webhooks < n ∧ name = webhook n) ∨ (∃ n, counts.transfers < n ∧ name = transfer n)

theorem Beyond.initial {counts : Counts} {name : String} (h : Beyond counts name) :
    ToolName.initial name = some 'f' ∨ ToolName.initial name = some 't' := by
  rcases h with ⟨n, -, rfl⟩ | ⟨n, -, rfl⟩
  · exact .inl (initial_webhook n)
  · exact .inr (initial_transfer n)

theorem Beyond.underscore_mem {counts : Counts} {name : String} (h : Beyond counts name) :
    '_' ∈ name.toList := by
  rcases h with ⟨n, -, rfl⟩ | ⟨n, -, rfl⟩
  · exact underscore_mem_webhook n
  · exact underscore_mem_transfer n

/-- The name that a node gets is beyond the counts in front of it and not beyond the counts behind
it, and what is beyond these is beyond those. -/
theorem assign_beyond (counts : Counts) (node : Node) :
    (∀ name, (assign counts node).1 = some name →
      Beyond counts name ∧ ¬ Beyond (assign counts node).2 name) ∧
    ∀ name, Beyond (assign counts node).2 name → Beyond counts name := by
  cases htarget : node.hasTarget with
  | false =>
    rw [assign_of_not_hasTarget counts htarget]
    exact ⟨nofun, fun name h => h⟩
  | true =>
    obtain ⟨id, kind, next⟩ := node
    rcases Node.hasTarget_cases htarget with
      ⟨url, method, rfl, hblank⟩ | ⟨number, text, rfl, hblank⟩
    · rw [assign_webhook counts id url method next hblank]
      constructor
      · rintro name hname
        cases hname
        refine ⟨.inl ⟨_, Nat.lt_succ_self _, rfl⟩, ?_⟩
        rintro (⟨n, hlt, heq⟩ | ⟨n, -, heq⟩)
        · obtain rfl := webhook_injective heq
          exact Nat.lt_irrefl _ hlt
        · exact webhook_ne_transfer _ _ heq
      · rintro name (⟨n, hlt, rfl⟩ | htransfer)
        · exact .inl ⟨n, Nat.lt_of_succ_lt hlt, rfl⟩
        · exact .inr htransfer
    · rw [assign_transfer counts id number text next hblank]
      constructor
      · rintro name hname
        cases hname
        refine ⟨.inr ⟨_, Nat.lt_succ_self _, rfl⟩, ?_⟩
        rintro (⟨n, -, heq⟩ | ⟨n, hlt, heq⟩)
        · exact webhook_ne_transfer _ _ heq.symm
        · obtain rfl := transfer_injective heq
          exact Nat.lt_irrefl _ hlt
      · rintro name (hwebhook | ⟨n, hlt, rfl⟩)
        · exact .inl hwebhook
        · exact .inr ⟨n, Nat.lt_of_succ_lt hlt, rfl⟩

/-- Names are given out above the counts in front. -/
theorem beyond_of_mem {counts : Counts} {nodes : List Node} {name : String}
    (h : some name ∈ dynamicFrom counts nodes) : Beyond counts name := by
  induction nodes generalizing counts with
  | nil => cases h
  | cons node nodes ih =>
    rw [dynamicFrom] at h
    rcases List.mem_cons.mp h with h | h
    · exact ((assign_beyond counts node).1 name h.symm).1
    · exact (assign_beyond counts node).2 name (ih h)

/-- No name is given out twice. -/
theorem nodup_dynamicFrom (counts : Counts) (nodes : List Node) :
    ((dynamicFrom counts nodes).filterMap id).Nodup := by
  induction nodes generalizing counts with
  | nil => exact List.nodup_nil
  | cons node nodes ih =>
    rw [dynamicFrom]
    cases hname : (assign counts node).1 with
    | none => simpa using ih (assign counts node).2
    | some name =>
      rw [List.filterMap_cons_some (f := id) rfl, List.nodup_cons]
      refine ⟨fun hmem => ?_, ih (assign counts node).2⟩
      obtain ⟨found, hfound, rfl⟩ := List.mem_filterMap.mp hmem
      exact ((assign_beyond counts node).1 name hname).2 (beyond_of_mem hfound)

end ToolName

end CallFlow
