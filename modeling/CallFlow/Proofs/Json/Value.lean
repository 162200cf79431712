import CallFlow.Proofs.Json.Numeral

/-!
# Values

What holds of every part of a value is shown by going through arrays and objects.  Two such
properties of values matter for their texts: that all numbers are whole, and how deep containers are
nested.
-/

namespace CallFlow.Json

/-- A property holds of every value if it holds of the leaves, of an array whenever it holds of the
items, and of an object whenever it holds of the values under its keys. -/
@[elab_as_elim]
theorem inductionOn {motive : Json → Prop} (j : Json) (null : motive .null)
    (bool : ∀ b, motive (.bool b)) (number : ∀ n, motive (.number n))
    (string : ∀ s, motive (.string s))
    (array : ∀ items, (∀ item ∈ items, motive item) → motive (.array items))
    (object : ∀ members, (∀ member ∈ members, motive member.2) → motive (.object members)) :
    motive j :=
  Json.rec (motive_2 := fun items => ∀ item ∈ items, motive item)
    (motive_3 := fun members => ∀ member ∈ members, motive member.2)
    (motive_4 := fun member => motive member.2)
    null bool number string array object nofun
    (fun _ _ hfirst hrest => List.forall_mem_cons.mpr ⟨hfirst, hrest⟩) nofun
    (fun _ _ hfirst hrest => List.forall_mem_cons.mpr ⟨hfirst, hrest⟩) (fun _ _ h => h) j

/-- A value in which every number is whole. -/
inductive Whole : Json → Prop
  | null : Whole .null
  | bool (b : Bool) : Whole (.bool b)
  | number {n : JsonNumber} (h : n.IsWhole) : Whole (.number n)
  | string (s : String) : Whole (.string s)
  | array {items : List Json} (h : ∀ item ∈ items, Whole item) : Whole (.array items)
  | object {members : List (String × Json)} (h : ∀ member ∈ members, Whole member.2) :
    Whole (.object members)

/-- A value in which at most the given number of containers are nested. -/
def Within : Nat → Json → Prop
  | 0, .array _ => False
  | 0, .object _ => False
  | n + 1, .array items => ∀ item ∈ items, Within n item
  | n + 1, .object members => ∀ member ∈ members, Within n member.2
  | _, _ => True

theorem Within.mono {m n : Nat} {value : Json} (h : value.Within m) (hle : m ≤ n) :
    value.Within n := by
  induction m generalizing n value with
  | zero =>
    cases value with
    | array items => exact h.elim
    | object members => exact h.elim
    | _ => cases n <;> trivial
  | succ m ih =>
    obtain ⟨n, rfl⟩ : ∃ k, n = k + 1 := ⟨n - 1, by omega⟩
    have hle : m ≤ n := Nat.le_of_succ_le_succ hle
    cases value with
    | array items => exact fun item hitem => ih (h item hitem) hle
    | object members => exact fun member hmember => ih (h member hmember) hle
    | _ => trivial

end CallFlow.Json
