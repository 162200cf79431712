import Mathlib.Data.List.Basic
import Mathlib.Data.List.Induction
import CallFlow.Script.Provider
import CallFlow.Tool.Set

/-!
# First arrivals

Providers and tools are collected in sets that remember in which order their elements first came.
This module says what that means for a list of arrivals, and shows it of both sets.  The set of
tools looks names up in an index, which holds the names of its tools throughout.
-/

namespace CallFlow

section

variable {α : Type} [DecidableEq α]

/-- `found` lists the elements of `arrivals` without repetition, in the order in which they first
came. -/
structure FirstArrivals (arrivals found : List α) : Prop where
  nodup : found.Nodup
  mem_iff : ∀ a, a ∈ found ↔ a ∈ arrivals
  order : found.Pairwise fun a b => arrivals.idxOf a < arrivals.idxOf b

namespace FirstArrivals

variable {arrivals found : List α} {a : α}

theorem nil : FirstArrivals ([] : List α) [] :=
  ⟨List.nodup_nil, fun _ => Iff.rfl, .nil⟩

theorem order_append (h : FirstArrivals arrivals found) (later : List α) :
    found.Pairwise fun a b => (arrivals ++ later).idxOf a < (arrivals ++ later).idxOf b := by
  refine h.order.imp_of_mem fun {a b} ha hb hlt => ?_
  rw [List.idxOf_append_of_mem ((h.mem_iff a).mp ha),
    List.idxOf_append_of_mem ((h.mem_iff b).mp hb)]
  exact hlt

/-- An element that came before changes nothing. -/
theorem again (h : FirstArrivals arrivals found) (hold : a ∈ found) :
    FirstArrivals (arrivals ++ [a]) found where
  nodup := h.nodup
  mem_iff := by
    intro b
    rw [List.mem_append, List.mem_singleton, ← h.mem_iff b]
    constructor
    · exact Or.inl
    · rintro (hb | rfl)
      · exact hb
      · exact hold
  order := h.order_append [a]

/-- A new element comes last. -/
theorem snoc (h : FirstArrivals arrivals found) (hnew : a ∉ found) :
    FirstArrivals (arrivals ++ [a]) (found ++ [a]) where
  nodup := by
    rw [List.nodup_append]
    refine ⟨h.nodup, by simp, ?_⟩
    rintro b hb c hc rfl
    rw [List.mem_singleton] at hc
    exact hnew (hc ▸ hb)
  mem_iff := by
    intro b
    rw [List.mem_append, List.mem_append, h.mem_iff b]
  order := by
    rw [List.pairwise_append]
    refine ⟨h.order_append [a], List.pairwise_singleton _ _, ?_⟩
    intro b hb c hc
    obtain rfl := List.mem_singleton.mp hc
    have hb := (h.mem_iff b).mp hb
    have hc : c ∉ arrivals := fun hc => hnew ((h.mem_iff c).mpr hc)
    rw [List.idxOf_append_of_mem hb, List.idxOf_append_of_notMem hc]
    exact Nat.lt_add_right _ (List.idxOf_lt_length_of_mem hb)

end FirstArrivals

end

/-! ## Providers -/

namespace ProviderSet

theorem ofList_snoc (providers : List Provider) (provider : Provider) :
    ofList (providers ++ [provider]) = (ofList providers).insert provider := by
  simp [ofList, insertAll]

/-- The set of the providers in a list holds them in the order of their first arrival. -/
theorem firstArrivals_ofList (providers : List Provider) :
    FirstArrivals providers (ofList providers).toList := by
  induction providers using List.reverseRecOn with
  | nil => exact .nil
  | append_singleton providers provider ih =>
    rw [ofList_snoc, insert]
    split
    · next hold => exact ih.again hold
    · next hnew => exact ih.snoc hnew

end ProviderSet

/-! ## Tools -/

namespace ToolSet

/-- The index of a set holds the names of its tools. -/
def Indexed (set : ToolSet) : Prop :=
  ∀ name, set.contains name = true ↔ name ∈ set.names

theorem indexed_empty : empty.Indexed := by
  simp [Indexed, empty, contains, names]

theorem Indexed.snoc {set : ToolSet} (h : set.Indexed) (tool : Tool) :
    Indexed ⟨set.tools ++ [tool], set.index.insert tool.name⟩ := by
  intro name
  have hname := h name
  simp only [contains, names] at hname
  simp only [contains, names, Std.HashSet.contains_insert, Bool.or_eq_true, beq_iff_eq, hname,
    List.map_append, List.map_cons, List.map_nil, List.mem_append, List.mem_singleton]
  tauto

theorem Indexed.insert {set : ToolSet} (h : set.Indexed) (tool : Tool) :
    (set.insert tool).2.Indexed := by
  rw [ToolSet.insert]
  split
  · exact h
  · exact h.snoc tool

theorem insert_of_not_mem {set : ToolSet} (h : set.Indexed) {tool : Tool}
    (hnew : tool.name ∉ set.names) : (set.insert tool).2.tools = set.tools ++ [tool] := by
  rw [insert, if_neg (fun hcontains => hnew ((h tool.name).mp hcontains))]

/-- Tools with new names are all added, in order. -/
theorem Indexed.extend_tools {set : ToolSet} (h : set.Indexed) {tools : List Tool}
    (hnew : ∀ tool ∈ tools, tool.name ∉ set.names) (hdistinct : (tools.map Tool.name).Nodup) :
    (set.extend tools).tools = set.tools ++ tools := by
  induction tools generalizing set with
  | nil => simp [extend]
  | cons tool tools ih =>
    rw [List.map_cons, List.nodup_cons] at hdistinct
    have hinsert := insert_of_not_mem h (hnew tool List.mem_cons_self)
    have hlater : ∀ other ∈ tools, other.name ∉ (set.insert tool).2.names := by
      intro other hother hmem
      rw [names, hinsert, List.map_append, List.mem_append] at hmem
      rcases hmem with hmem | hmem
      · exact hnew other (List.mem_cons_of_mem tool hother) hmem
      · have hsame : other.name = tool.name := by simpa using hmem
        exact hdistinct.1 (hsame ▸ List.mem_map_of_mem hother)
    have hrest := ih (h.insert tool) hlater hdistinct.2
    rw [hinsert, List.append_assoc] at hrest
    exact hrest

/-- A list of tools with distinct names loses none of them in a set. -/
theorem tools_ofList {tools : List Tool} (hdistinct : (tools.map Tool.name).Nodup) :
    (ofList tools).tools = tools := by
  have hnew : ∀ tool ∈ tools, tool.name ∉ empty.names := by simp [empty, names]
  exact indexed_empty.extend_tools hnew hdistinct

end ToolSet

end CallFlow
