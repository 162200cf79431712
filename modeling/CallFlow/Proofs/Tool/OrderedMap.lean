import Mathlib.Data.List.Dedup
import CallFlow.Proofs.Tool.Set

/-!
# A set of tools is a map in order of arrival

A set of tools is filled by operations of four kinds, in any order and number.  What it holds then
is told by the tools that arrived and by how they arrived: a name stands where it came first, and
its definition is the one with which it came, unless a later arrival took its place.  The two
structures of a set, the tools and the index of their names, never come apart.
-/

namespace CallFlow.ToolSet

/-! ## Operations and arrivals -/

/-- An operation on a set of tools. -/
inductive Operation where
  | insert (tool : Tool)
  | upsert (tool : Tool)
  | extend (tools : List Tool)
  /-- Makes a set of the tools in a list. -/
  | collect (tools : List Tool)

/-- The set after an operation. -/
def perform (set : ToolSet) : Operation → ToolSet
  | .insert tool => (set.insert tool).2
  | .upsert tool => (set.upsert tool).2
  | .extend tools => set.extend tools
  | .collect tools => ofList tools

/-- The set after operations that begin with the set without tools. -/
def performAll (operations : List Operation) : ToolSet :=
  operations.foldl perform empty

/-- A tool that arrives at a set, and whether it takes the place of the one with its name. -/
structure Arrival where
  tool : Tool
  replaces : Bool

/-- The arrivals up to an operation, given those in front of it. -/
def Operation.arrivals (before : List Arrival) : Operation → List Arrival
  | .insert tool => before ++ [⟨tool, false⟩]
  | .upsert tool => before ++ [⟨tool, true⟩]
  | .extend tools => before ++ tools.map (⟨·, false⟩)
  | .collect tools => tools.map (⟨·, false⟩)

/-- The arrivals at the set that operations leave behind. -/
def arrivalsOf (operations : List Operation) : List Arrival :=
  operations.foldl Operation.arrivals []

/-- The definition that arrivals leave of a name: the last one that took the place of another, or
the first one when none did. -/
def stored? (arrivals : List Arrival) (name : String) : Option Tool :=
  match arrivals.filter fun arrival => arrival.tool.name = name with
  | [] => none
  | first :: later => some ((later.filter Arrival.replaces).getLast?.getD first).tool

/-- A set is the map that arrivals make: the names in the order in which they first came, each with
the definition that the arrivals leave of it. -/
structure OrderedMap (set : ToolSet) (arrivals : List Arrival) : Prop where
  distinct : set.names.Nodup
  indexed : ∀ name, name ∈ set.index ↔ name ∈ set.names
  names : FirstArrivals (arrivals.map fun arrival => arrival.tool.name) set.names
  stored : ∀ tool ∈ set.tools, stored? arrivals tool.name = some tool
  get : ∀ name, set.get? name = stored? arrivals name
  name_of_get : ∀ name tool, set.get? name = some tool → tool.name = name
  contains : ∀ name, set.contains name = true ↔ (set.get? name).isSome = true
  size : set.size = (arrivals.map fun arrival => arrival.tool.name).dedup.length
  /-- A tool is added if its name is new. -/
  insert_new : ∀ tool, tool.name ∉ set.names →
    set.insert tool = (true, ⟨set.tools ++ [tool], set.index.insert tool.name⟩)
  insert_again : ∀ tool, tool.name ∈ set.names → set.insert tool = (false, set)
  upsert_new : ∀ tool, tool.name ∉ set.names →
    set.upsert tool = (false, ⟨set.tools ++ [tool], set.index.insert tool.name⟩)
  /-- A tool takes the place of the one with its name. -/
  upsert_again : ∀ tool, tool.name ∈ set.names → ∃ front old back,
    set.tools = front ++ old :: back ∧ old.name = tool.name ∧
      set.upsert tool = (true, ⟨front ++ tool :: back, set.index⟩)

/-! ## Which definition is left -/

section

variable {arrivals : List Arrival} {name : String}

theorem filter_eq_nil_of_not_mem (h : name ∉ (arrivals.map Arrival.tool).map Tool.name) :
    arrivals.filter (fun arrival => arrival.tool.name = name) = [] := by
  rw [List.filter_eq_nil_iff]
  intro arrival harrival hname
  apply h
  rw [List.map_map]
  exact List.mem_map.mpr ⟨arrival, harrival, by simpa using hname⟩

theorem stored?_eq_none (h : name ∉ (arrivals.map Arrival.tool).map Tool.name) :
    stored? arrivals name = none := by
  rw [stored?, filter_eq_nil_of_not_mem h]

/-- Arrivals of other names leave the definition alone. -/
theorem stored?_snoc_of_ne {arrival : Arrival} (h : arrival.tool.name ≠ name) :
    stored? (arrivals ++ [arrival]) name = stored? arrivals name := by
  simp [stored?, h]

/-- The first arrival of a name is its definition. -/
theorem stored?_snoc_new {arrival : Arrival}
    (h : arrival.tool.name ∉ (arrivals.map Arrival.tool).map Tool.name) :
    stored? (arrivals ++ [arrival]) arrival.tool.name = some arrival.tool := by
  simp [stored?, List.filter_append, filter_eq_nil_of_not_mem h]

/-- A tool that replaces nothing leaves every definition that is there alone. -/
theorem stored?_snoc_of_mem (h : name ∈ (arrivals.map Arrival.tool).map Tool.name) (tool : Tool) :
    stored? (arrivals ++ [⟨tool, false⟩]) name = stored? arrivals name := by
  by_cases hname : tool.name = name
  · obtain ⟨first, later, hfilter⟩ : ∃ first later,
        arrivals.filter (fun arrival => arrival.tool.name = name) = first :: later := by
      rw [List.map_map] at h
      obtain ⟨arrival, harrival, hsame⟩ := List.mem_map.mp h
      refine List.exists_cons_of_ne_nil (List.ne_nil_of_mem (List.mem_filter.mpr ⟨harrival, ?_⟩))
      simpa using hsame
    simp [stored?, List.filter_append, hfilter, hname]
  · exact stored?_snoc_of_ne hname

/-- A tool that takes the place of others is the definition of its name. -/
theorem stored?_snoc_replacing (arrivals : List Arrival) (tool : Tool) :
    stored? (arrivals ++ [⟨tool, true⟩]) tool.name = some tool := by
  cases hfilter : arrivals.filter (fun arrival => arrival.tool.name = tool.name) with
  | nil => simp [stored?, List.filter_append, hfilter]
  | cons first later => simp [stored?, List.filter_append, hfilter]

end

/-! ## One operation -/

section

variable {set : ToolSet} {arrivals : List Arrival}

/-- A set that holds its arrivals, by the rule that arrivals may take the place of others. -/
def Follows (set : ToolSet) (arrivals : List Arrival) : Prop :=
  set.Holds (arrivals.map Arrival.tool) (stored? arrivals)

theorem follows_empty : empty.Follows [] :=
  holds_empty _

theorem Follows.insert (h : set.Follows arrivals) (tool : Tool) :
    (set.insert tool).2.Follows (arrivals ++ [⟨tool, false⟩]) := by
  rw [Follows, List.map_append]
  refine Holds.insert_of h ?_ ?_
  · exact fun hnew => stored?_snoc_new hnew
  · exact fun name hname => stored?_snoc_of_mem hname tool

theorem Follows.upsert (h : set.Follows arrivals) (tool : Tool) :
    (set.upsert tool).2.Follows (arrivals ++ [⟨tool, true⟩]) := by
  rw [Follows, List.map_append]
  refine Holds.upsert_of h ?_ ?_
  · exact stored?_snoc_replacing arrivals tool
  · exact fun name _ hne => stored?_snoc_of_ne hne

theorem Follows.extend (h : set.Follows arrivals) (tools : List Tool) :
    (set.extend tools).Follows (arrivals ++ tools.map (⟨·, false⟩)) := by
  induction tools generalizing set arrivals with
  | nil => simpa [ToolSet.extend] using h
  | cons tool tools ih =>
    have hrest := ih (h.insert tool)
    rw [List.append_assoc] at hrest
    exact hrest

/-- Every operation keeps set and arrivals together. -/
theorem Follows.perform (h : set.Follows arrivals) (operation : Operation) :
    (set.perform operation).Follows (operation.arrivals arrivals) := by
  cases operation with
  | insert tool => exact h.insert tool
  | upsert tool => exact h.upsert tool
  | extend tools => exact h.extend tools
  | collect tools => exact follows_empty.extend tools

/-- What is found under a name is what the arrivals leave of it. -/
theorem Follows.get?_eq (h : set.Follows arrivals) (name : String) :
    set.get? name = stored? arrivals name := by
  cases hget : set.get? name with
  | none =>
    have hnew : name ∉ set.names := by
      intro hmem
      obtain ⟨tool, htool, hname⟩ := List.mem_map.mp hmem
      have hmissed := List.find?_eq_none.mp hget tool htool
      simp [hname] at hmissed
    rw [stored?_eq_none fun hmem => hnew ((Holds.mem_names_iff h name).mpr hmem)]
  | some tool =>
    have hname : tool.name = name := by simpa using List.find?_some hget
    rw [← hname, Holds.defined h tool (List.mem_of_find?_eq_some hget)]

/-- A set that holds its arrivals is the map that they make. -/
theorem Follows.orderedMap (h : set.Follows arrivals) : set.OrderedMap arrivals := by
  have hnames : FirstArrivals (arrivals.map fun arrival => arrival.tool.name) set.names := by
    have harrived := Holds.names h
    rw [List.map_map] at harrived
    exact harrived
  refine
    { distinct := hnames.nodup
      indexed := fun name => Holds.indexed h name
      names := hnames
      stored := Holds.defined h
      get := h.get?_eq
      name_of_get := ?_
      contains := ?_
      size := ?_
      insert_new := fun tool hnew => (Holds.indexed h).insert_eq_of_not_mem hnew
      insert_again := fun tool hold => (Holds.indexed h).insert_eq_of_mem hold
      upsert_new := fun tool hnew => upsert_eq_of_not_mem hnew
      upsert_again := fun tool hold => exists_upsert_eq_of_mem hold }
  · intro name tool hget
    simpa using List.find?_some hget
  · intro name
    rw [Holds.indexed h name, get?, List.find?_isSome]
    constructor
    · intro hmem
      obtain ⟨tool, htool, hname⟩ := List.mem_map.mp hmem
      exact ⟨tool, htool, by simpa using hname⟩
    · rintro ⟨tool, htool, hname⟩
      exact List.mem_map.mpr ⟨tool, htool, by simpa using hname⟩
  · have hperm : set.names.Perm (arrivals.map fun arrival => arrival.tool.name).dedup := by
      rw [List.perm_ext_iff_of_nodup hnames.nodup (List.nodup_dedup _)]
      intro name
      rw [List.mem_dedup]
      exact hnames.mem_iff name
    rw [← hperm.length_eq, ToolSet.names, List.length_map, ToolSet.size]

end

/-! ## All operations -/

theorem follows_performAll (operations : List Operation) :
    (performAll operations).Follows (arrivalsOf operations) := by
  induction operations using List.reverseRecOn with
  | nil => exact follows_empty
  | append_singleton operations operation ih =>
    rw [performAll, arrivalsOf, List.foldl_append, List.foldl_append]
    exact ih.perform operation

/-- Whatever operations have filled a set, it is the map that the arrivals make. -/
theorem orderedMap_performAll (operations : List Operation) :
    (performAll operations).OrderedMap (arrivalsOf operations) :=
  (follows_performAll operations).orderedMap

end CallFlow.ToolSet
