import CallFlow.Proofs.Tool.Merge

/-!
# Layers of tools

Tools that are merged again and again come in layers: first what was there, then what each merge
brought.  The last layer that has a name decides everything about it, namely its definition and
where it stands.  Names of an earlier layer stand in front, and names of one layer keep the order
that they have in it.

`Layered` says this of a list of tools without a word about merging; `layered_merge` is the step
from one merge to the next.
-/

namespace CallFlow

/-- What holds of no earlier element of an ordered list is told by its positions. -/
theorem idxOf_lt_idxOf_of_pairwise {α : Type} [DecidableEq α] {R : α → α → Prop} {a b : α}
    {elements : List α} (horder : elements.Pairwise R) (ha : a ∈ elements) (hb : b ∈ elements)
    (hne : a ≠ b) (hnot : ¬ R b a) : elements.idxOf a < elements.idxOf b := by
  induction elements with
  | nil => cases ha
  | cons c elements ih =>
    rw [List.pairwise_cons] at horder
    obtain ⟨hfirst, hrest⟩ := horder
    by_cases hca : c = a
    · subst hca
      rw [List.idxOf_cons_self, List.idxOf_cons_ne _ hne]
      exact Nat.succ_pos _
    · have ha : a ∈ elements := (List.mem_cons.mp ha).resolve_left (Ne.symm hca)
      have hcb : c ≠ b := by
        intro hsame
        apply hnot
        rw [← hsame]
        exact hfirst a ha
      have hb : b ∈ elements := (List.mem_cons.mp hb).resolve_left (Ne.symm hcb)
      rw [List.idxOf_cons_ne _ hca, List.idxOf_cons_ne _ hcb]
      exact Nat.succ_lt_succ (ih hrest ha hb)

namespace Tool

theorem first?_append_of_not_mem {tools : List Tool} {name : String}
    (h : name ∉ tools.map Tool.name) (later : List Tool) :
    first? (tools ++ later) name = first? later name := by
  rw [first?, List.filter_append, filter_name_eq_nil h, List.nil_append]
  rfl

/-- Where names are distinct, a tool is the definition of its name. -/
theorem first?_of_mem {tools : List Tool} (hdistinct : (tools.map Tool.name).Nodup)
    {tool : Tool} (htool : tool ∈ tools) : first? tools tool.name = some tool := by
  induction tools with
  | nil => cases htool
  | cons other tools ih =>
    rw [List.map_cons, List.nodup_cons] at hdistinct
    obtain ⟨hnew, hdistinct⟩ := hdistinct
    rcases List.mem_cons.mp htool with rfl | hmem
    · simp [first?]
    · have hne : other.name ≠ tool.name := by
        intro hsame
        apply hnew
        rw [hsame]
        exact List.mem_map_of_mem hmem
      have hskip : first? (other :: tools) tool.name = first? tools tool.name := by
        simp [first?, hne]
      exact hskip.trans (ih hdistinct hmem)

/-- What is kept of some tools has the definitions that it had among them. -/
theorem Kept.first?_eq {existing kept : List Tool} {taken : List String}
    (h : Kept existing taken kept) {name : String} (hname : name ∈ kept.map Tool.name) :
    first? kept name = first? existing name := by
  obtain ⟨tool, htool, rfl⟩ := List.mem_map.mp hname
  rw [first?_of_mem h.nodup htool, h.first tool htool]

/-- What is kept of some tools stands in the order that it had among them. -/
theorem Kept.idxOf_lt {existing kept : List Tool} {taken : List String}
    (h : Kept existing taken kept) {a b : String} (ha : a ∈ kept.map Tool.name)
    (hb : b ∈ kept.map Tool.name)
    (hlt : (existing.map Tool.name).idxOf a < (existing.map Tool.name).idxOf b) :
    (kept.map Tool.name).idxOf a < (kept.map Tool.name).idxOf b := by
  apply idxOf_lt_idxOf_of_pairwise h.order ha hb
  · rintro rfl
    exact Nat.lt_irrefl _ hlt
  · exact Nat.not_lt_of_gt hlt

/-! ## The last layer of a name -/

/-- A layer is the last one that has a name. -/
structure LastWith (layers : List (List Tool)) (name : String) (place : Nat)
    (layer : List Tool) : Prop where
  there : layers[place]? = some layer
  mem : name ∈ layer.map Tool.name
  later : ∀ (other : Nat) (behind : List Tool), place < other → layers[other]? = some behind →
    name ∉ behind.map Tool.name

variable {layers : List (List Tool)} {flow tools : List Tool}

/-- The last layer of a name is the one that is put last, or it is the one that it was before. -/
theorem LastWith.snoc_cases {name : String} {place : Nat} {layer : List Tool}
    (h : LastWith (layers ++ [flow]) name place layer) :
    (place = layers.length ∧ layer = flow) ∨
      (place < layers.length ∧ name ∉ flow.map Tool.name ∧ LastWith layers name place layer) := by
  obtain ⟨hthere, hmem, hlater⟩ := h
  rcases Nat.lt_trichotomy place layers.length with hlt | rfl | hgt
  · refine .inr ⟨hlt, hlater layers.length flow hlt List.getElem?_concat_length, ?_⟩
    rw [List.getElem?_append_left hlt] at hthere
    refine ⟨hthere, hmem, ?_⟩
    intro other behind hother hbehind
    have hbound := (List.getElem?_eq_some_iff.mp hbehind).1
    apply hlater other behind hother
    rw [List.getElem?_append_left hbound]
    exact hbehind
  · rw [List.getElem?_concat_length] at hthere
    exact .inl ⟨rfl, (Option.some.inj hthere).symm⟩
  · rw [List.getElem?_eq_none (by simp; omega)] at hthere
    cases hthere

/-- The tools are those of the layers: the last layer that has a name defines it, and decides where
it stands. -/
structure Layered (layers : List (List Tool)) (tools : List Tool) : Prop where
  mem_iff : ∀ name, name ∈ tools.map Tool.name ↔ ∃ layer ∈ layers, name ∈ layer.map Tool.name
  defined : ∀ {name : String} {place : Nat} {layer : List Tool},
    LastWith layers name place layer → first? tools name = first? layer name
  order : ∀ {a b : String} {i j : Nat} {front back : List Tool},
    LastWith layers a i front → LastWith layers b j back →
    i < j ∨ (i = j ∧ (front.map Tool.name).idxOf a < (front.map Tool.name).idxOf b) →
    (tools.map Tool.name).idxOf a < (tools.map Tool.name).idxOf b

/-- Tools that nothing was merged into are a layer by themselves. -/
theorem layered_singleton (tools : List Tool) : Layered [tools] tools := by
  have hlast : ∀ {name : String} {place : Nat} {layer : List Tool},
      LastWith [tools] name place layer → place = 0 ∧ layer = tools := by
    intro name place layer h
    have hthere := h.there
    rw [List.getElem?_singleton] at hthere
    split at hthere
    · next hplace => exact ⟨hplace, (Option.some.inj hthere).symm⟩
    · cases hthere
  constructor
  · intro name
    simp
  · intro name place layer h
    obtain ⟨-, rfl⟩ := hlast h
    rfl
  · intro a b i j front back ha hb hlt
    obtain ⟨rfl, rfl⟩ := hlast ha
    obtain ⟨rfl, -⟩ := hlast hb
    rcases hlt with hlt | ⟨-, hlt⟩
    · exact absurd hlt (Nat.lt_irrefl 0)
    · exact hlt

/-- A layer is put on top of what is kept of the tools in front of it. -/
theorem Layered.snoc (h : Layered layers tools) {kept : List Tool}
    (hkept : Kept tools (flow.map Tool.name) kept) : Layered (layers ++ [flow]) (kept ++ flow) := by
  have hold : ∀ {name : String} {place : Nat} {layer : List Tool},
      LastWith layers name place layer → name ∉ flow.map Tool.name →
        name ∈ kept.map Tool.name := by
    intro name place layer hlast hnew
    have hlayer := List.mem_of_getElem? hlast.there
    exact (hkept.mem_iff name).mpr ⟨(h.mem_iff name).mpr ⟨layer, hlayer, hlast.mem⟩, hnew⟩
  have hfresh : ∀ {name : String}, name ∈ flow.map Tool.name → name ∉ kept.map Tool.name := by
    intro name hname hmem
    exact ((hkept.mem_iff name).mp hmem).2 hname
  constructor
  · intro name
    have hkeeps := hkept.mem_iff name
    have hbefore := h.mem_iff name
    rw [List.map_append, List.mem_append, hkeeps, hbefore]
    by_cases hflow : name ∈ flow.map Tool.name <;> simp_all
  · intro name place layer hlast
    rcases hlast.snoc_cases with ⟨-, rfl⟩ | ⟨-, hnew, hlast⟩
    · exact first?_append_of_not_mem (hfresh hlast.mem) layer
    · have hname := hold hlast hnew
      rw [first?_append_of_mem hname, hkept.first?_eq hname, h.defined hlast]
  · intro a b i j front back ha hb hlt
    rw [List.map_append]
    rcases ha.snoc_cases with ⟨rfl, rfl⟩ | ⟨hi, hanew, ha⟩
    · rcases hb.snoc_cases with ⟨rfl, rfl⟩ | ⟨hj, -, -⟩
      · have hin : (back.map Tool.name).idxOf a < (back.map Tool.name).idxOf b := by
          rcases hlt with hlt | ⟨-, hlt⟩
          · exact absurd hlt (Nat.lt_irrefl _)
          · exact hlt
        rw [List.idxOf_append_of_notMem (hfresh ha.mem),
          List.idxOf_append_of_notMem (hfresh hb.mem)]
        exact Nat.add_lt_add_left hin _
      · omega
    · have hamem := hold ha hanew
      rw [List.idxOf_append_of_mem hamem]
      rcases hb.snoc_cases with ⟨rfl, rfl⟩ | ⟨hj, hbnew, hb⟩
      · rw [List.idxOf_append_of_notMem (hfresh hb.mem)]
        exact Nat.lt_add_right _ (List.idxOf_lt_length_of_mem hamem)
      · have hbmem := hold hb hbnew
        rw [List.idxOf_append_of_mem hbmem]
        exact hkept.idxOf_lt hamem hbmem (h.order ha hb hlt)

/-- Tools with distinct names that are merged in become the last layer. -/
theorem layered_merge (h : Layered layers tools) (hdistinct : (flow.map Tool.name).Nodup) :
    Layered (layers ++ [flow]) (merge tools flow) := by
  obtain ⟨kept, hkept, hmerge⟩ := exists_kept_merge_of_nodup tools hdistinct
  rw [hmerge]
  exact h.snoc hkept

end Tool

end CallFlow
