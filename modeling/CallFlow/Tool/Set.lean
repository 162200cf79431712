import CallFlow.Tool.Basic
import Std.Data.HashSet

/-!
# Sets of tools

A set of tools holds one tool per name, in the order in which the names first came.  Next to the
tools it keeps an index of their names.
-/

namespace CallFlow

/-- Tools with distinct names, in order of arrival, and the index of the names. -/
structure ToolSet where
  tools : List Tool
  index : Std.HashSet String

namespace ToolSet

/-- The set without tools. -/
def empty : ToolSet := ⟨[], ∅⟩

/-- Whether a name is in the set. -/
def contains (set : ToolSet) (name : String) : Bool :=
  set.index.contains name

/-- The tool of a name. -/
def get? (set : ToolSet) (name : String) : Option Tool :=
  set.tools.find? (·.name == name)

/-- The names in order of arrival. -/
def names (set : ToolSet) : List String :=
  set.tools.map Tool.name

/-- The number of tools. -/
def size (set : ToolSet) : Nat :=
  set.tools.length

/-- Adds a tool if its name is new, and tells whether it was. -/
def insert (set : ToolSet) (tool : Tool) : Bool × ToolSet :=
  if set.contains tool.name then (false, set)
  else (true, ⟨set.tools ++ [tool], set.index.insert tool.name⟩)

/-- Puts a tool in the place of the first one with its name; `none` when there is none. -/
def replace? (tool : Tool) : List Tool → Option (List Tool)
  | [] => none
  | t :: tools =>
    if t.name = tool.name then some (tool :: tools) else (replace? tool tools).map (t :: ·)

/-- Adds a tool, in place of the one with its name if there is one, and tells whether there was. -/
def upsert (set : ToolSet) (tool : Tool) : Bool × ToolSet :=
  match replace? tool set.tools with
  | some tools => (true, { set with tools := tools })
  | none => (false, ⟨set.tools ++ [tool], set.index.insert tool.name⟩)

/-- Adds the tools whose names are new, in turn. -/
def extend (set : ToolSet) (tools : List Tool) : ToolSet :=
  tools.foldl (fun set tool => (set.insert tool).2) set

/-- The set of the tools in a list; of tools with the same name the first is kept. -/
def ofList (tools : List Tool) : ToolSet :=
  empty.extend tools

/-- Adds or replaces the tools in turn. -/
def upsertAll (set : ToolSet) (tools : List Tool) : ToolSet :=
  tools.foldl (fun set tool => (set.upsert tool).2) set

end ToolSet

end CallFlow
