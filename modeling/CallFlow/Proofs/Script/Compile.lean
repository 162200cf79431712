import CallFlow.Proofs.Arrivals
import CallFlow.Proofs.Tool.Name
import CallFlow.Script.Compile

/-!
# Compiling node by node

A script is put together from the steps of its nodes.  The step of a node depends on the nodes in
front of it only through their number and the counts of named tools; so a list of nodes can be
taken apart at any node, and the lines of each step are found in the script as one block.
-/

namespace CallFlow

/-- A list falls into the elements in front of an index, the one at the index and the others. -/
theorem exists_append_of_getElem? {α : Type} {elements : List α} {i : Nat} {a : α}
    (h : elements[i]? = some a) :
    ∃ front back, elements = front ++ a :: back ∧ front.length = i := by
  obtain ⟨hlt, hget⟩ := List.getElem?_eq_some_iff.mp h
  refine ⟨elements.take i, elements.drop (i + 1), ?_, ?_⟩
  · rw [← hget, List.getElem_cons_drop, List.take_append_drop]
  · rw [List.length_take, Nat.min_eq_left (Nat.le_of_lt hlt)]

/-- The provider whose tools a node needs; a node that names no calendar service uses the first. -/
def Node.provider? (node : Node) : Option Provider :=
  match node.kind with
  | .checkAvailability service _ | .bookAppointment service _ =>
    some (.ofScheduling (service.getD .calcom))
  | .crmLookup _ => some .crm
  | _ => none

theorem Step.provider_ofKind (node : Node) (tool : Option String) :
    (Step.ofKind node.kind tool).provider = node.provider? := by
  obtain ⟨id, kind, next⟩ := node
  cases kind with
  | message text =>
    unfold ofKind
    dsimp only
    split <;> rfl
  | transfer number text => cases tool <;> rfl
  | closing text =>
    unfold ofKind
    dsimp only
    split <;> rfl
  | webhook url method => cases tool <;> rfl
  | _ => rfl

namespace Script

/-- The steps of nodes, given the counts in front of them. -/
def stepsFrom (counts : ToolName.Counts) (nodes : List Node) : List Step :=
  List.zipWith (fun node tool => Step.ofKind node.kind tool) nodes
    (ToolName.dynamicFrom counts nodes)

theorem stepsFrom_cons (counts : ToolName.Counts) (node : Node) (nodes : List Node) :
    stepsFrom counts (node :: nodes) =
      Step.ofKind node.kind (ToolName.assign counts node).1 ::
        stepsFrom (ToolName.assign counts node).2 nodes :=
  rfl

theorem stepsFrom_append (counts : ToolName.Counts) (front back : List Node) :
    stepsFrom counts (front ++ back) =
      stepsFrom counts front ++ stepsFrom (counts.after front) back := by
  rw [stepsFrom, ToolName.dynamicFrom_append,
    List.zipWith_append (ToolName.length_dynamicFrom counts front).symm]
  rfl

@[simp]
theorem length_stepsFrom (counts : ToolName.Counts) (nodes : List Node) :
    (stepsFrom counts nodes).length = nodes.length := by
  rw [stepsFrom, List.length_zipWith, ToolName.length_dynamicFrom, Nat.min_self]

/-- The steps of a list that is taken apart at a node. -/
theorem steps_append_cons (front back : List Node) (node : Node) :
    steps (front ++ node :: back) =
      stepsFrom ⟨0, 0⟩ front ++
        Step.ofKind node.kind (ToolName.assign (ToolName.Counts.after ⟨0, 0⟩ front) node).1 ::
          stepsFrom (ToolName.assign (ToolName.Counts.after ⟨0, 0⟩ front) node).2 back := by
  rw [← stepsFrom_cons, ← stepsFrom_append]
  rfl

/-- The step of a node has the place of the node. -/
theorem getElem?_steps (front back : List Node) (node : Node) :
    (steps (front ++ node :: back))[front.length]? =
      some (Step.ofKind node.kind
        (ToolName.assign (ToolName.Counts.after ⟨0, 0⟩ front) node).1) := by
  rw [steps_append_cons, List.getElem?_append_right (by simp), length_stepsFrom, Nat.sub_self,
    List.getElem?_cons_zero]

/-! ## Providers -/

theorem filterMap_provider_stepsFrom (counts : ToolName.Counts) (nodes : List Node) :
    (stepsFrom counts nodes).filterMap Step.provider = nodes.filterMap Node.provider? := by
  induction nodes generalizing counts with
  | nil => rfl
  | cons node nodes ih =>
    rw [stepsFrom_cons, List.filterMap_cons, List.filterMap_cons, Step.provider_ofKind, ih]

theorem providers_compile (nodes : List Node) :
    (compile nodes).providers = .ofList (nodes.filterMap Node.provider?) := by
  cases nodes with
  | nil => rfl
  | cons node nodes =>
    exact congrArg ProviderSet.ofList (filterMap_provider_stepsFrom ⟨0, 0⟩ (node :: nodes))

/-! ## Lines -/

theorem stepLines_append (position : Nat) (front back : List Step) :
    stepLines position (front ++ back) =
      stepLines position front ++ stepLines (position + front.length) back := by
  induction front generalizing position with
  | nil => rfl
  | cons step front ih =>
    have hposition : position + 1 + front.length = position + (step :: front).length := by
      rw [List.length_cons]
      omega
    rw [List.cons_append, stepLines, stepLines, ih, hposition, List.append_assoc]

theorem lines_compile {nodes : List Node} (h : nodes ≠ []) :
    (compile nodes).lines = heading ++ stepLines 1 (steps nodes) ++ ending := by
  rw [compile, if_neg (by simpa using h)]

/-- The lines of a step are in the script, numbered by the place of its node. -/
theorem exists_lines_compile {nodes : List Node} {i : Nat} {step : Step}
    (h : (steps nodes)[i]? = some step) :
    ∃ before after, (compile nodes).lines = before ++ step.lines (i + 1) ++ after := by
  have hne : nodes ≠ [] := by
    rintro rfl
    cases h
  obtain ⟨front, back, hsteps, rfl⟩ := exists_append_of_getElem? h
  rw [lines_compile hne, hsteps, stepLines_append, stepLines, Nat.add_comm 1 front.length]
  exact ⟨heading ++ stepLines 1 front, stepLines (front.length + 1 + 1) back ++ ending, by simp⟩

end Script

end CallFlow
