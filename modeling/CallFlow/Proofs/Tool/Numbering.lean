import CallFlow.Proofs.Script.Compile

/-!
# The numbers of tools, by counting

The names of tools are given out in one pass with two counters.  Counting says the same without a
pass: a webhook with an address bears the number of such webhooks up to its place, and a transfer
with a number the number of such transfers.  The two kinds are told apart by what a node is, not by
the order in which the pass asks for it.
-/

namespace CallFlow

namespace Node

/-- Whether a node is a webhook whose address is not blank. -/
def callsWebhook (node : Node) : Bool :=
  match node.kind with
  | .webhook (some url) _ => !Text.blank url
  | _ => false

/-- Whether a node is a transfer whose number is not blank. -/
def transfersCall (node : Node) : Bool :=
  match node.kind with
  | .transfer (some number) _ => !Text.blank number
  | _ => false

theorem isSome_webhookTarget (node : Node) : node.webhookTarget.isSome = node.callsWebhook := by
  obtain ⟨id, kind, next⟩ := node
  cases kind with
  | webhook url method =>
    cases url with
    | none => rfl
    | some url =>
      cases hblank : Text.blank url <;>
        simp [webhookTarget, callsWebhook, Text.nonBlank, hblank]
  | _ => rfl

theorem isSome_transferTarget (node : Node) :
    node.transferTarget.isSome = node.transfersCall := by
  obtain ⟨id, kind, next⟩ := node
  cases kind with
  | transfer number text =>
    cases number with
    | none => rfl
    | some number =>
      cases hblank : Text.blank number <;>
        simp [transferTarget, transfersCall, Text.nonBlank, hblank]
  | _ => rfl

/-- No node is both a webhook and a transfer. -/
theorem transfersCall_eq_false {node : Node} (h : node.callsWebhook = true) :
    node.transfersCall = false := by
  obtain ⟨id, kind, next⟩ := node
  cases kind with
  | transfer number text => cases h
  | _ => rfl

end Node

namespace ToolName

/-- The names of the tools of nodes are those that counting gives.  Places count from zero. -/
structure Counted (nodes : List Node) (names : List (Option String)) : Prop where
  length : names.length = nodes.length
  /-- The number of a tool is how many nodes of its kind stand at its place or in front of it. -/
  name : ∀ (i : Nat) (node : Node), nodes[i]? = some node →
    names[i]? = some
      (if node.callsWebhook then
        some ("flow_webhook_" ++ toString ((nodes.take (i + 1)).countP Node.callsWebhook))
      else if node.transfersCall then
        some ("transfer_call_" ++ toString ((nodes.take (i + 1)).countP Node.transfersCall))
      else none)
  /-- A name stands at one place only. -/
  distinct : ∀ (i j : Nat) (name : String),
    names[i]? = some (some name) → names[j]? = some (some name) → i = j
  /-- The tools of providers have other names. -/
  fresh : ∀ name, some name ∈ names → ∀ provider : Provider, ∀ template ∈ provider.templates,
    template.name ≠ name

theorem assign_eq (counts : Counts) (node : Node) :
    assign counts node =
      if node.callsWebhook then
        (some (webhook (counts.webhooks + 1)), { counts with webhooks := counts.webhooks + 1 })
      else if node.transfersCall then
        (some (transfer (counts.transfers + 1)), { counts with transfers := counts.transfers + 1 })
      else (none, counts) := by
  rw [assign, Node.isSome_webhookTarget, Node.isSome_transferTarget]

/-- One node is counted in its own kind. -/
theorem assign_counts (counts : Counts) (node : Node) :
    (assign counts node).2 =
      ⟨counts.webhooks + [node].countP Node.callsWebhook,
        counts.transfers + [node].countP Node.transfersCall⟩ := by
  rw [assign_eq]
  by_cases hwebhook : node.callsWebhook = true
  · simp [hwebhook, Node.transfersCall_eq_false hwebhook]
  · by_cases htransfer : node.transfersCall = true
    · simp [hwebhook, htransfer]
    · simp [hwebhook, htransfer]

/-- The counters behind nodes have counted them. -/
theorem Counts.after_eq (counts : Counts) (nodes : List Node) :
    counts.after nodes =
      ⟨counts.webhooks + nodes.countP Node.callsWebhook,
        counts.transfers + nodes.countP Node.transfersCall⟩ := by
  induction nodes generalizing counts with
  | nil => rfl
  | cons node nodes ih =>
    have hrest : counts.after (node :: nodes) = (assign counts node).2.after nodes := rfl
    have hcount (test : Node → Bool) :
        (node :: nodes).countP test = [node].countP test + nodes.countP test := by
      rw [← List.countP_append, List.singleton_append]
    rw [hrest, ih, assign_counts, hcount, hcount, Nat.add_assoc, Nat.add_assoc]

/-- The name behind some nodes is the one that the counters behind them give. -/
theorem getElem?_dynamic (front back : List Node) (node : Node) :
    (dynamic (front ++ node :: back))[front.length]? =
      some (assign (Counts.after ⟨0, 0⟩ front) node).1 := by
  have hlength := length_dynamicFrom ⟨0, 0⟩ front
  rw [dynamic, dynamicFrom_append, List.getElem?_append_right (Nat.le_of_eq hlength), hlength,
    Nat.sub_self]
  rfl

/-- A node is the last of the nodes up to its place, so it bears their number. -/
theorem assign_after (front : List Node) (node : Node) :
    (assign (Counts.after ⟨0, 0⟩ front) node).1 =
      if node.callsWebhook then
        some (webhook ((front ++ [node]).countP Node.callsWebhook))
      else if node.transfersCall then
        some (transfer ((front ++ [node]).countP Node.transfersCall))
      else none := by
  rw [assign_eq, Counts.after_eq]
  by_cases hwebhook : node.callsWebhook = true
  · simp [hwebhook]
  · by_cases htransfer : node.transfersCall = true
    · simp [hwebhook, htransfer]
    · simp [hwebhook, htransfer]

/-- Where no present entry is repeated, the place of a present entry is unique. -/
theorem eq_of_getElem?_of_nodup {α : Type} {entries : List (Option α)}
    (h : (entries.filterMap id).Nodup) {i j : Nat} {a : α}
    (hi : entries[i]? = some (some a)) (hj : entries[j]? = some (some a)) : i = j := by
  have hapart : entries.Pairwise fun x y => ∀ b, x = some b → ∀ c, y = some c → b ≠ c := by
    simpa [List.Nodup, List.pairwise_filterMap] using h
  obtain ⟨hilt, higet⟩ := List.getElem?_eq_some_iff.mp hi
  obtain ⟨hjlt, hjget⟩ := List.getElem?_eq_some_iff.mp hj
  rcases Nat.lt_trichotomy i j with hlt | heq | hgt
  · exact absurd rfl (List.pairwise_iff_getElem.mp hapart i j hilt hjlt hlt a higet a hjget)
  · exact heq
  · exact absurd rfl (List.pairwise_iff_getElem.mp hapart j i hjlt hilt hgt a hjget a higet)

/-- Counting gives the names of the tools of all lists of nodes; they are distinct, and no tool of
a provider has one of them. -/
theorem counted_dynamic (nodes : List Node) : Counted nodes (dynamic nodes) where
  length := length_dynamicFrom ⟨0, 0⟩ nodes
  name := by
    intro i node hnode
    obtain ⟨front, back, rfl, rfl⟩ := exists_append_of_getElem? hnode
    have htake : (front ++ node :: back).take (front.length + 1) = front ++ [node] := by
      rw [List.append_cons, List.take_left' (by simp)]
    rw [htake, getElem?_dynamic, assign_after]
    rfl
  distinct := by
    intro i j name hi hj
    exact eq_of_getElem?_of_nodup (nodup_dynamicFrom ⟨0, 0⟩ nodes) hi hj
  fresh := by
    rintro name hname provider template htemplate rfl
    have hfirst := (beyond_of_mem hname).initial
    obtain ⟨hnotWebhook, hnotTransfer⟩ :=
      Provider.initial_of_mem_toolNames (List.mem_map_of_mem htemplate)
    rcases hfirst with hwebhook | htransfer
    · exact hnotWebhook hwebhook
    · exact hnotTransfer htransfer

/-- A webhook without an address is not counted, and the two kinds are counted apart. -/
example :
    dynamic [.ofKind "a" (.webhook none .post), .ofKind "b" (.transfer (some "1") none),
      .ofKind "c" (.webhook (some "u") .get), .ofKind "d" (.transfer (some "2") none)] =
      [none, some "transfer_call_1", some "flow_webhook_1", some "transfer_call_2"] := by
  decide

end ToolName

end CallFlow
