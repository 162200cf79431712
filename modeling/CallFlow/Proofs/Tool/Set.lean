import Mathlib.Data.List.Nodup
import CallFlow.Proofs.Arrivals

/-!
# Which definition a set keeps

Tools that arrive one after another are collected in a set by one of two rules: of several
definitions of a name the first one stays, or the last one takes its place.  Under both rules the
names stand in the order in which they first arrived.  A set that holds its arrivals by either rule
is described by `ToolSet.Holds`, with the rule as a parameter.
-/

namespace CallFlow

/-! ## First and last definitions -/

namespace Tool

/-- The first of the tools with a name. -/
def first? (tools : List Tool) (name : String) : Option Tool :=
  (tools.filter fun tool => tool.name = name).head?

/-- The last of the tools with a name. -/
def last? (tools : List Tool) (name : String) : Option Tool :=
  (tools.filter fun tool => tool.name = name).getLast?

theorem filter_name_ne_nil {tools : List Tool} {name : String}
    (h : name ∈ tools.map Tool.name) : (tools.filter fun tool => tool.name = name) ≠ [] := by
  obtain ⟨tool, htool, rfl⟩ := List.mem_map.mp h
  exact List.ne_nil_of_mem (List.mem_filter.mpr ⟨htool, by simp⟩)

theorem filter_name_eq_nil {tools : List Tool} {name : String}
    (h : name ∉ tools.map Tool.name) : (tools.filter fun tool => tool.name = name) = [] := by
  rw [List.filter_eq_nil_iff]
  intro tool htool hname
  exact h (List.mem_map.mpr ⟨tool, htool, by simpa using hname⟩)

/-- A later definition does not count against an earlier one. -/
theorem first?_append_of_mem {tools : List Tool} {name : String}
    (h : name ∈ tools.map Tool.name) (later : List Tool) :
    first? (tools ++ later) name = first? tools name := by
  rw [first?, List.filter_append, List.head?_append_of_ne_nil _ (filter_name_ne_nil h)]
  rfl

theorem first?_snoc_self {tools : List Tool} {tool : Tool}
    (h : tool.name ∉ tools.map Tool.name) : first? (tools ++ [tool]) tool.name = some tool := by
  rw [first?, List.filter_append, filter_name_eq_nil h]
  simp

/-- The last definition is the one that counts. -/
theorem last?_snoc_self (tools : List Tool) (tool : Tool) :
    last? (tools ++ [tool]) tool.name = some tool := by
  simp [last?]

theorem last?_snoc_of_ne {tool : Tool} {name : String} (h : tool.name ≠ name)
    (tools : List Tool) : last? (tools ++ [tool]) name = last? tools name := by
  simp [last?, h]

end Tool

namespace ToolSet

/-! ## One tool -/

section

variable {set : ToolSet} {tool : Tool}

/-- A tool whose name is in the set is not added. -/
theorem Indexed.insert_eq_of_mem (h : set.Indexed) (hold : tool.name ∈ set.names) :
    set.insert tool = (false, set) := by
  rw [ToolSet.insert, if_pos ((h tool.name).mpr hold)]

/-- A tool with a new name is added behind the others. -/
theorem Indexed.insert_eq_of_not_mem (h : set.Indexed) (hnew : tool.name ∉ set.names) :
    set.insert tool = (true, ⟨set.tools ++ [tool], set.index.insert tool.name⟩) := by
  rw [ToolSet.insert, if_neg fun hmem => hnew ((h tool.name).mp hmem)]

theorem replace?_eq_none_iff {tools : List Tool} :
    replace? tool tools = none ↔ tool.name ∉ tools.map Tool.name := by
  induction tools with
  | nil => simp [replace?]
  | cons other tools ih =>
    rw [replace?]
    by_cases h : other.name = tool.name
    · simp [h]
    · rw [if_neg h, Option.map_eq_none_iff, ih, List.map_cons, List.mem_cons]
      simp [Ne.symm h]

/-- A replacement stands in the place of the tool that it replaces. -/
theorem exists_of_replace? {tools replaced : List Tool} (h : replace? tool tools = some replaced) :
    ∃ front old back, tools = front ++ old :: back ∧ old.name = tool.name ∧
      replaced = front ++ tool :: back := by
  induction tools generalizing replaced with
  | nil => cases h
  | cons other tools ih =>
    rw [replace?] at h
    split at h
    · next hname =>
      cases h
      exact ⟨[], other, tools, rfl, hname, rfl⟩
    · obtain ⟨rest, hrest, rfl⟩ := Option.map_eq_some_iff.mp h
      obtain ⟨front, old, back, rfl, hname, rfl⟩ := ih hrest
      exact ⟨other :: front, old, back, rfl, hname, rfl⟩

/-- A tool with a new name is put in behind the others. -/
theorem upsert_eq_of_not_mem (hnew : tool.name ∉ set.names) :
    set.upsert tool = (false, ⟨set.tools ++ [tool], set.index.insert tool.name⟩) := by
  rw [upsert, replace?_eq_none_iff.mpr hnew]

/-- A tool whose name is in the set takes the place of the one with its name, and nothing else
changes. -/
theorem exists_upsert_eq_of_mem (hold : tool.name ∈ set.names) :
    ∃ front old back, set.tools = front ++ old :: back ∧ old.name = tool.name ∧
      set.upsert tool = (true, ⟨front ++ tool :: back, set.index⟩) := by
  cases hreplace : replace? tool set.tools with
  | none => exact absurd hold (replace?_eq_none_iff.mp hreplace)
  | some replaced =>
    obtain ⟨front, old, back, htools, hname, rfl⟩ := exists_of_replace? hreplace
    refine ⟨front, old, back, htools, hname, ?_⟩
    rw [upsert, hreplace]

end

/-! ## Sets of arrivals -/

/-- A set holds the names of its arrivals in the order in which they first came, each with the
definition that a rule gives it, and its index knows them all. -/
structure Holds (set : ToolSet) (arrivals : List Tool) (defined? : String → Option Tool) :
    Prop where
  indexed : set.Indexed
  names : FirstArrivals (arrivals.map Tool.name) set.names
  defined : ∀ tool ∈ set.tools, defined? tool.name = some tool

variable {set : ToolSet} {arrivals : List Tool}

theorem holds_empty (defined? : String → Option Tool) : empty.Holds [] defined? where
  indexed := indexed_empty
  names := .nil
  defined := by simp [empty]

theorem Holds.mem_names_iff {defined? : String → Option Tool} (h : set.Holds arrivals defined?)
    (name : String) : name ∈ set.names ↔ name ∈ arrivals.map Tool.name :=
  h.names.mem_iff name

/-- A tool with a new name comes last; the others keep their definitions. -/
theorem Holds.snoc {defined? later? : String → Option Tool} (h : set.Holds arrivals defined?)
    {tool : Tool} (hnew : tool.name ∉ arrivals.map Tool.name)
    (hself : later? tool.name = some tool)
    (hothers : ∀ name ∈ arrivals.map Tool.name, later? name = defined? name) :
    Holds ⟨set.tools ++ [tool], set.index.insert tool.name⟩ (arrivals ++ [tool]) later? where
  indexed := h.indexed.snoc tool
  names := by
    have hnames := h.names.snoc fun hmem => hnew ((h.mem_names_iff _).mp hmem)
    simpa [ToolSet.names] using hnames
  defined := by
    intro other hother
    rcases List.mem_append.mp hother with hother | hother
    · have hname := (h.mem_names_iff other.name).mp (List.mem_map_of_mem hother)
      rw [hothers other.name hname]
      exact h.defined other hother
    · obtain rfl := List.mem_singleton.mp hother
      exact hself

/-- A tool that is added is the definition of its name only if the name is new. -/
theorem Holds.insert_of {defined? later? : String → Option Tool} (h : set.Holds arrivals defined?)
    {tool : Tool} (hself : tool.name ∉ arrivals.map Tool.name → later? tool.name = some tool)
    (hothers : ∀ name ∈ arrivals.map Tool.name, later? name = defined? name) :
    (set.insert tool).2.Holds (arrivals ++ [tool]) later? := by
  by_cases hold : tool.name ∈ set.names
  · rw [h.indexed.insert_eq_of_mem hold]
    refine ⟨h.indexed, ?_, ?_⟩
    · simpa using h.names.again hold
    · intro other hother
      have hname := (h.mem_names_iff other.name).mp (List.mem_map_of_mem hother)
      rw [hothers other.name hname]
      exact h.defined other hother
  · rw [h.indexed.insert_eq_of_not_mem hold]
    have hnew : tool.name ∉ arrivals.map Tool.name := fun hmem =>
      hold ((h.mem_names_iff _).mpr hmem)
    exact h.snoc hnew (hself hnew) hothers

/-- A tool that is put in is the definition of its name from then on. -/
theorem Holds.upsert_of {defined? later? : String → Option Tool} (h : set.Holds arrivals defined?)
    {tool : Tool} (hself : later? tool.name = some tool)
    (hothers : ∀ name ∈ arrivals.map Tool.name, tool.name ≠ name → later? name = defined? name) :
    (set.upsert tool).2.Holds (arrivals ++ [tool]) later? := by
  by_cases hold : tool.name ∈ set.names
  · obtain ⟨front, old, back, htools, hname, hupsert⟩ := exists_upsert_eq_of_mem hold
    have hsame : (front ++ tool :: back).map Tool.name = set.names := by
      simp [ToolSet.names, htools, hname]
    rw [hupsert]
    refine ⟨?_, ?_, ?_⟩
    · intro name
      rw [ToolSet.names, hsame]
      exact h.indexed name
    · rw [ToolSet.names, hsame]
      simpa using h.names.again hold
    · intro other hother
      by_cases heq : other = tool
      · rw [heq]
        exact hself
      -- Names are distinct, so the other tools were there and have other names.
      · have hkept : other ∈ front ++ back := by
          simpa [heq] using hother
        have hdistinct := h.names.nodup
        rw [← hsame, List.map_append, List.map_cons, List.nodup_middle, List.nodup_cons,
          ← List.map_append] at hdistinct
        have hne : tool.name ≠ other.name := fun heq =>
          hdistinct.1 (heq ▸ List.mem_map_of_mem hkept)
        have hthere : other ∈ set.tools := by
          rw [htools]
          exact List.perm_middle.mem_iff.mpr (List.mem_cons_of_mem old hkept)
        have hname := (h.mem_names_iff other.name).mp (List.mem_map_of_mem hthere)
        rw [hothers other.name hname hne]
        exact h.defined other hthere
  · rw [upsert_eq_of_not_mem hold]
    have hnew : tool.name ∉ arrivals.map Tool.name := fun hmem =>
      hold ((h.mem_names_iff _).mpr hmem)
    exact h.snoc hnew hself fun name hname =>
      hothers name hname fun heq => hnew (heq ▸ hname)

/-- The first definition of a name stays. -/
theorem Holds.insert (h : set.Holds arrivals (Tool.first? arrivals)) (tool : Tool) :
    (set.insert tool).2.Holds (arrivals ++ [tool]) (Tool.first? (arrivals ++ [tool])) :=
  h.insert_of Tool.first?_snoc_self fun _ hname => Tool.first?_append_of_mem hname [tool]

/-- The last definition of a name takes its place. -/
theorem Holds.upsert (h : set.Holds arrivals (Tool.last? arrivals)) (tool : Tool) :
    (set.upsert tool).2.Holds (arrivals ++ [tool]) (Tool.last? (arrivals ++ [tool])) :=
  h.upsert_of (Tool.last?_snoc_self arrivals tool) fun _ _ hne =>
    Tool.last?_snoc_of_ne hne arrivals

/-- The set of the tools in a list keeps the first definition of every name. -/
theorem holds_ofList (tools : List Tool) : (ofList tools).Holds tools (Tool.first? tools) := by
  induction tools using List.reverseRecOn with
  | nil => exact holds_empty _
  | append_singleton tools tool ih =>
    rw [ofList, extend, List.foldl_append]
    exact ih.insert tool

/-- Tools that are added or replaced in turn leave the last definition of every name. -/
theorem holds_upsertAll (tools : List Tool) :
    (empty.upsertAll tools).Holds tools (Tool.last? tools) := by
  induction tools using List.reverseRecOn with
  | nil => exact holds_empty _
  | append_singleton tools tool ih =>
    rw [upsertAll, List.foldl_append]
    exact ih.upsert tool

/-- Tools with distinct names are all added, and none of them is replaced. -/
theorem tools_upsertAll {tools : List Tool} (hdistinct : (tools.map Tool.name).Nodup) :
    (empty.upsertAll tools).tools = tools := by
  induction tools using List.reverseRecOn with
  | nil => rfl
  | append_singleton tools tool ih =>
    rw [List.map_append, List.nodup_append] at hdistinct
    have htools := ih hdistinct.1
    have hnew : tool.name ∉ tools.map Tool.name := fun hmem =>
      hdistinct.2.2 _ hmem _ (by simp) rfl
    have hreplace : replace? tool (empty.upsertAll tools).tools = none := by
      rw [htools]
      exact replace?_eq_none_iff.mpr hnew
    rw [upsertAll, List.foldl_append, List.foldl_cons, List.foldl_nil, ← upsertAll, upsert,
      hreplace, htools]

end ToolSet

end CallFlow
