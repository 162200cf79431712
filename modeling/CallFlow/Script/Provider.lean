import CallFlow.Flow.Node

/-!
# Providers

A provider is an integration whose tools a script may tell the agent to use.  A set of providers
remembers the order in which they first came.
-/

namespace CallFlow

/-- An integration with tools of its own. -/
inductive Provider where
  | calcom
  | googleCalendar
  | crm
  deriving DecidableEq

namespace Provider

/-- The name of a provider. -/
def name : Provider → String
  | .calcom => "calcom"
  | .googleCalendar => "google_calendar"
  | .crm => "crm"

/-- The provider behind a calendar service. -/
def ofScheduling : SchedulingProvider → Provider
  | .calcom => .calcom
  | .googleCalendar => .googleCalendar

end Provider

/-- Distinct providers in the order of their first arrival. -/
structure ProviderSet where
  toList : List Provider
  distinct : toList.Nodup := by decide
  deriving DecidableEq

namespace ProviderSet

/-- The set without providers. -/
def empty : ProviderSet := ⟨[], List.nodup_nil⟩

/-- Whether a provider is in the set. -/
def contains (set : ProviderSet) (provider : Provider) : Bool :=
  set.toList.contains provider

/-- The set with a provider, which comes last if it is new. -/
def insert (set : ProviderSet) (provider : Provider) : ProviderSet :=
  if h : provider ∈ set.toList then set
  else
    ⟨set.toList ++ [provider], by
      refine List.nodup_append.2 ⟨set.distinct, by simp, ?_⟩
      rintro a ha b hb rfl
      simp only [List.mem_singleton] at hb
      exact h (hb ▸ ha)⟩

/-- The number of providers. -/
def size (set : ProviderSet) : Nat :=
  set.toList.length

/-- The set with several providers that arrive in turn. -/
def insertAll (set : ProviderSet) (providers : List Provider) : ProviderSet :=
  providers.foldl insert set

/-- The set of the providers in a list. -/
def ofList (providers : List Provider) : ProviderSet :=
  empty.insertAll providers

end ProviderSet

end CallFlow
