import CallFlow.Proofs.Tool.Set
import CallFlow.Tool.Merge

/-!
# The merge law

Merged tools are the tools that an agent keeps, followed by the tools that a flow brings.  Of
several definitions of a name the agent keeps its first one and the flow brings its last one; on
both sides the order is that of first arrival.  Merging the same tools of a flow once more changes
nothing.
-/

namespace CallFlow

/-- Filtering a list does not change which of two remaining elements comes first. -/
theorem idxOf_lt_idxOf_of_filter {α : Type} [DecidableEq α] {test : α → Bool} {a b : α}
    (ha : test a = true) (hb : test b = true) {elements : List α}
    (h : (elements.filter test).idxOf a < (elements.filter test).idxOf b) :
    elements.idxOf a < elements.idxOf b := by
  induction elements with
  | nil => cases h
  | cons c elements ih =>
    by_cases hc : test c = true
    · rw [List.filter_cons_of_pos hc] at h
      by_cases hcb : c = b
      · subst hcb
        rw [List.idxOf_cons_self] at h
        exact absurd h (Nat.not_lt_zero _)
      · rw [List.idxOf_cons_ne _ hcb] at h ⊢
        by_cases hca : c = a
        · subst hca
          rw [List.idxOf_cons_self]
          exact Nat.succ_pos _
        · rw [List.idxOf_cons_ne _ hca] at h ⊢
          exact Nat.succ_lt_succ (ih (Nat.lt_of_succ_lt_succ h))
    · rw [List.filter_cons_of_neg hc] at h
      have hca : c ≠ a := fun hsame => hc (hsame ▸ ha)
      have hcb : c ≠ b := fun hsame => hc (hsame ▸ hb)
      rw [List.idxOf_cons_ne _ hca, List.idxOf_cons_ne _ hcb]
      exact Nat.succ_lt_succ (ih h)

namespace Tool

/-- The tools that are kept of existing ones when some names are taken: the first definition of
every other name, in the order in which these names first come. -/
structure Kept (existing : List Tool) (taken : List String) (kept : List Tool) : Prop where
  mem_iff : ∀ name, name ∈ kept.map Tool.name ↔
    name ∈ existing.map Tool.name ∧ name ∉ taken
  order : (kept.map Tool.name).Pairwise fun a b =>
    (existing.map Tool.name).idxOf a < (existing.map Tool.name).idxOf b
  first : ∀ tool ∈ kept, first? existing tool.name = some tool

/-- The tools that a flow brings: the last definition of every name, in the order in which the names
first come. -/
structure Brought (flow brought : List Tool) : Prop where
  names : FirstArrivals (flow.map Tool.name) (brought.map Tool.name)
  last : ∀ tool ∈ brought, last? flow tool.name = some tool

theorem Kept.nodup {existing kept : List Tool} {taken : List String}
    (h : Kept existing taken kept) : (kept.map Tool.name).Nodup := by
  refine h.order.imp fun {a b} hlt => ?_
  rintro rfl
  exact Nat.lt_irrefl _ hlt

theorem brought_upsertAll (flow : List Tool) :
    Brought flow (ToolSet.empty.upsertAll flow).tools where
  names := (ToolSet.holds_upsertAll flow).names
  last := (ToolSet.holds_upsertAll flow).defined

/-- The tools that are left when the taken names are removed hold the tools that are kept. -/
theorem kept_ofList (existing : List Tool) (taken : List String) :
    Kept existing taken
      (ToolSet.ofList (existing.filter fun tool => tool.name ∉ taken)).tools := by
  have holds := ToolSet.holds_ofList (existing.filter fun tool => tool.name ∉ taken)
  have hmap : (existing.filter fun tool => tool.name ∉ taken).map Tool.name =
      (existing.map Tool.name).filter (· ∉ taken) := by
    rw [List.filter_map]
    rfl
  have hmem : ∀ name, name ∈ (ToolSet.ofList (existing.filter fun tool =>
      tool.name ∉ taken)).names ↔ name ∈ existing.map Tool.name ∧ name ∉ taken := by
    intro name
    rw [holds.mem_names_iff, hmap, List.mem_filter, decide_eq_true_iff]
  refine ⟨hmem, ?_, ?_⟩
  · refine holds.names.order.imp_of_mem fun {a b} ha hb hlt => ?_
    rw [hmap] at hlt
    exact idxOf_lt_idxOf_of_filter (by simpa using ((hmem a).mp ha).2)
      (by simpa using ((hmem b).mp hb).2) hlt
  · intro tool htool
    have hfirst := holds.defined tool htool
    have hname := ((hmem tool.name).mp (List.mem_map_of_mem htool)).2
    rw [first?, List.filter_filter] at hfirst
    rw [first?, ← hfirst]
    congr 1
    refine List.filter_congr fun other _ => ?_
    by_cases hsame : other.name = tool.name <;> simp [hsame, hname]

/-- The two sides of a merge have no name in common, so that neither loses a tool to the other. -/
theorem merge_eq (existing flow : List Tool) :
    merge existing flow =
      (ToolSet.ofList (existing.filter fun tool => tool.name ∉ flow.map Tool.name)).tools ++
        (ToolSet.empty.upsertAll flow).tools := by
  have hflow := ToolSet.holds_upsertAll flow
  have hkept := kept_ofList existing (flow.map Tool.name)
  have hfilter : existing.filter (fun tool =>
      !(ToolSet.empty.upsertAll flow).contains tool.name) =
        existing.filter fun tool => tool.name ∉ flow.map Tool.name := by
    refine List.filter_congr fun tool _ => ?_
    rw [Bool.eq_iff_iff, Bool.not_eq_true', ← Bool.not_eq_true, hflow.indexed tool.name,
      hflow.mem_names_iff, decide_eq_true_iff]
  rw [merge, hfilter]
  refine ToolSet.Indexed.extend_tools (ToolSet.holds_ofList _).indexed ?_ hflow.names.nodup
  intro tool htool hmem
  exact ((hkept.mem_iff tool.name).mp hmem).2
    ((hflow.mem_names_iff tool.name).mp (List.mem_map_of_mem htool))

/-- Whatever is merged into tools, they keep what is not taken, and what is brought comes behind. -/
theorem exists_kept_merge (existing flow : List Tool) :
    ∃ kept, Kept existing (flow.map Tool.name) kept ∧
      merge existing flow = kept ++ (ToolSet.empty.upsertAll flow).tools :=
  ⟨_, kept_ofList existing (flow.map Tool.name), merge_eq existing flow⟩

/-- A flow whose tools have distinct names brings just these. -/
theorem exists_kept_merge_of_nodup (existing : List Tool) {flow : List Tool}
    (hdistinct : (flow.map Tool.name).Nodup) :
    ∃ kept, Kept existing (flow.map Tool.name) kept ∧ merge existing flow = kept ++ flow := by
  obtain ⟨kept, hkept, hmerge⟩ := exists_kept_merge existing flow
  rw [ToolSet.tools_upsertAll hdistinct] at hmerge
  exact ⟨kept, hkept, hmerge⟩

theorem nodup_names_merge (existing flow : List Tool) :
    ((merge existing flow).map Tool.name).Nodup := by
  obtain ⟨kept, hkept, hmerge⟩ := exists_kept_merge existing flow
  have hbrought := brought_upsertAll flow
  rw [hmerge, List.map_append, List.nodup_append]
  refine ⟨hkept.nodup, hbrought.names.nodup, ?_⟩
  rintro name hname other hother rfl
  exact ((hkept.mem_iff name).mp hname).2 ((hbrought.names.mem_iff name).mp hother)

theorem mem_names_merge (existing flow : List Tool) (name : String) :
    name ∈ (merge existing flow).map Tool.name ↔
      name ∈ existing.map Tool.name ∨ name ∈ flow.map Tool.name := by
  obtain ⟨kept, hkept, hmerge⟩ := exists_kept_merge existing flow
  rw [hmerge, List.map_append, List.mem_append, hkept.mem_iff,
    (brought_upsertAll flow).names.mem_iff]
  tauto

/-- A merge makes no tools of its own. -/
theorem mem_or_mem_of_mem_merge {existing flow : List Tool} {tool : Tool}
    (h : tool ∈ merge existing flow) : tool ∈ existing ∨ tool ∈ flow := by
  obtain ⟨kept, hkept, hmerge⟩ := exists_kept_merge existing flow
  rw [hmerge] at h
  rcases List.mem_append.mp h with htool | htool
  · exact .inl (List.mem_filter.mp (List.mem_of_mem_head? (hkept.first tool htool))).1
  · have hlast := (brought_upsertAll flow).last tool htool
    exact .inr (List.mem_filter.mp (List.mem_of_getLast? hlast)).1

/-- Merging the same tools once more changes nothing: what is kept is kept again, since its names
are distinct and none of them is taken, and what was brought gives way to itself. -/
theorem merge_merge (existing flow : List Tool) :
    merge (merge existing flow) flow = merge existing flow := by
  obtain ⟨kept, hkept, hmerge⟩ := exists_kept_merge existing flow
  have hkeeps : kept.filter (fun tool => tool.name ∉ flow.map Tool.name) = kept := by
    rw [List.filter_eq_self]
    intro tool htool
    exact decide_eq_true ((hkept.mem_iff tool.name).mp (List.mem_map_of_mem htool)).2
  have hdrops : (ToolSet.empty.upsertAll flow).tools.filter
      (fun tool => tool.name ∉ flow.map Tool.name) = [] := by
    rw [List.filter_eq_nil_iff]
    intro tool htool
    have hname := ((brought_upsertAll flow).names.mem_iff tool.name).mp (List.mem_map_of_mem htool)
    simpa using hname
  rw [hmerge, merge_eq, List.filter_append, hkeeps, hdrops, List.append_nil,
    ToolSet.tools_ofList hkept.nodup]

/-- The merge law: the names are those of both sides without repetition; what is kept stands in
front of what is brought; and a second merge changes nothing. -/
theorem merge_law (existing flow : List Tool) :
    ((merge existing flow).map Tool.name).Nodup ∧
      (∀ name, name ∈ (merge existing flow).map Tool.name ↔
        name ∈ existing.map Tool.name ∨ name ∈ flow.map Tool.name) ∧
      (∃ kept brought, merge existing flow = kept ++ brought ∧
        Kept existing (flow.map Tool.name) kept ∧ Brought flow brought) ∧
      merge (merge existing flow) flow = merge existing flow := by
  obtain ⟨kept, hkept, hmerge⟩ := exists_kept_merge existing flow
  exact ⟨nodup_names_merge existing flow, mem_names_merge existing flow,
    ⟨kept, _, hmerge, hkept, brought_upsertAll flow⟩, merge_merge existing flow⟩

end Tool

end CallFlow
