import CallFlow.Json.Basic
import CallFlow.Proofs.Json.Value
import Mathlib.Data.List.Nodup
import Mathlib.Data.String.Basic

/-!
# Members in order

A free-form object keeps its members in the order of their keys.  Two such lists of members are
equal when the same values are under the same keys, so what is done to them is told by what it does
to `Members.get?`.
-/

namespace CallFlow

namespace Members

/-- The keys of members in turn. -/
def keys (members : Members) : List String :=
  members.map (·.1)

/-- The members under none of the given keys. -/
def others (keys : List String) (members : Members) : Members :=
  members.filter fun member => member.1 ∉ keys

/-! ## Looking up -/

@[simp]
theorem get?_nil (key : String) : get? [] key = none :=
  rfl

theorem get?_cons (key other : String) (value : Json) (members : Members) :
    get? ((key, value) :: members) other =
      if other = key then some value else get? members other := by
  rw [get?, List.lookup_cons]
  by_cases h : other = key
  · simp [h]
  · rw [beq_false_of_ne h, if_neg h]
    rfl

theorem get?_append (members others : Members) (key : String) :
    get? (members ++ others) key = (get? members key).or (get? others key) :=
  List.lookup_append

theorem get?_eq_none_iff {members : Members} {key : String} :
    get? members key = none ↔ key ∉ members.keys := by
  induction members with
  | nil => simp [keys]
  | cons member members ih =>
    obtain ⟨k, v⟩ := member
    rw [get?_cons, keys, List.map_cons, List.mem_cons, not_or]
    by_cases h : key = k
    · simp [h]
    · rw [if_neg h, ih]
      simp [h, keys]

theorem mem_of_get? {members : Members} {key : String} {value : Json}
    (h : get? members key = some value) : (key, value) ∈ members := by
  obtain ⟨front, back, rfl, -⟩ := List.lookup_eq_some_iff.mp h
  exact List.mem_append_right _ List.mem_cons_self

theorem get?_eq_some_iff {members : Members} (hdistinct : members.keys.Nodup) {key : String}
    {value : Json} : get? members key = some value ↔ (key, value) ∈ members := by
  induction members with
  | nil => simp
  | cons member members ih =>
    obtain ⟨k, v⟩ := member
    rw [keys, List.map_cons, List.nodup_cons] at hdistinct
    rw [get?_cons, List.mem_cons, Prod.mk.injEq]
    by_cases h : key = k
    · subst h
      have hfresh : (key, value) ∉ members := fun hmem =>
        hdistinct.1 (List.mem_map.mpr ⟨_, hmem, rfl⟩)
      simp [hfresh, eq_comm]
    · rw [if_neg h, ih hdistinct.2]
      simp [h]

theorem get?_insert (members : Members) (key other : String) (value : Json) :
    get? (insert key value members) other =
      if other = key then some value else get? members other := by
  induction members with
  | nil => rw [insert, get?_cons]
  | cons member members ih =>
    obtain ⟨k, v⟩ := member
    rw [insert]
    by_cases hsame : key = k
    · subst hsame
      rw [if_pos rfl, get?_cons, get?_cons]
      by_cases h : other = key <;> simp [h]
    · rw [if_neg hsame]
      by_cases hlt : key < k
      · rw [if_pos hlt, get?_cons]
      · rw [if_neg hlt, get?_cons, get?_cons, ih]
        by_cases hk : other = k
        · simp [hk, Ne.symm hsame]
        · simp [hk]

theorem get?_filter (test : String → Bool) (members : Members) (key : String) :
    get? (members.filter fun member => test member.1) key =
      if test key then get? members key else none := by
  induction members with
  | nil => simp
  | cons member members ih =>
    obtain ⟨k, v⟩ := member
    rw [get?_cons]
    by_cases hk : test k = true
    · rw [List.filter_cons, if_pos hk, get?_cons, ih]
      by_cases h : key = k
      · simp [h, hk]
      · simp [h]
    · rw [List.filter_cons, if_neg hk, ih]
      by_cases h : key = k
      · simp [h, hk]
      · simp [h]

theorem get?_mapValues (change : Json → Json) (members : Members) (key : String) :
    get? (members.map fun member => (member.1, change member.2)) key =
      (get? members key).map change := by
  induction members with
  | nil => rfl
  | cons member members ih =>
    obtain ⟨k, v⟩ := member
    rw [List.map_cons, get?_cons, get?_cons, ih]
    by_cases h : key = k <;> simp [h]

/-! ## Keys in order -/

/-- The keys are in order, each once. -/
def Sorted (members : Members) : Prop :=
  members.Pairwise fun member other => member.1 < other.1

theorem Sorted.nodup_keys {members : Members} (h : Sorted members) : members.keys.Nodup := by
  refine List.Pairwise.map _ (fun member other hlt => ?_) h
  exact ne_of_lt hlt

theorem sorted_of_keys {members : Members} (keys : List String) (h : members.keys = keys)
    (hkeys : keys.Pairwise (· < ·)) : Sorted members := by
  subst h
  exact List.pairwise_map.mp hkeys

/-- Members in order are determined by the values under the keys. -/
theorem Sorted.ext {members others : Members} (h : Sorted members) (hother : Sorted others)
    (hget : ∀ key, get? members key = get? others key) : members = others := by
  have hperm : members.Perm others := by
    have hnodup : members.Nodup := List.Nodup.of_map _ h.nodup_keys
    have hothers : others.Nodup := List.Nodup.of_map _ hother.nodup_keys
    refine (List.perm_ext_iff_of_nodup hnodup hothers).mpr ?_
    rintro ⟨key, value⟩
    rw [← get?_eq_some_iff h.nodup_keys, ← get?_eq_some_iff hother.nodup_keys, hget]
  refine hperm.eq_of_pairwise ?_ h hother
  intro member other _ _ hlt hgt
  exact absurd hgt (lt_asymm hlt)

theorem mem_insert {members : Members} {key : String} {value : Json} {other : String × Json}
    (h : other ∈ insert key value members) : other = (key, value) ∨ other ∈ members := by
  induction members with
  | nil => exact .inl (List.mem_singleton.mp h)
  | cons member members ih =>
    obtain ⟨k, v⟩ := member
    rw [insert] at h
    split at h
    · rcases List.mem_cons.mp h with rfl | h
      · exact .inl rfl
      · exact .inr (List.mem_cons_of_mem _ h)
    · split at h
      · exact List.mem_cons.mp h
      · rcases List.mem_cons.mp h with rfl | h
        · exact .inr List.mem_cons_self
        · exact (ih h).imp_right (List.mem_cons_of_mem _)

theorem sorted_insert {members : Members} (h : Sorted members) (key : String) (value : Json) :
    Sorted (insert key value members) := by
  induction members with
  | nil => exact List.pairwise_singleton _ _
  | cons member members ih =>
    obtain ⟨k, v⟩ := member
    obtain ⟨hfirst, hrest⟩ := List.pairwise_cons.mp h
    rw [insert]
    by_cases hsame : key = k
    · subst hsame
      rw [if_pos rfl]
      exact List.pairwise_cons.mpr ⟨hfirst, hrest⟩
    · rw [if_neg hsame]
      by_cases hlt : key < k
      · rw [if_pos hlt]
        refine List.pairwise_cons.mpr ⟨?_, h⟩
        intro other hmem
        rcases List.mem_cons.mp hmem with rfl | hmem
        · exact hlt
        · exact lt_trans hlt (hfirst other hmem)
      · rw [if_neg hlt]
        refine List.pairwise_cons.mpr ⟨?_, ih hrest⟩
        intro other hmem
        rcases mem_insert hmem with rfl | hmem
        · exact lt_of_le_of_ne (not_lt.mp hlt) (Ne.symm hsame)
        · exact hfirst other hmem

theorem sorted_filter {members : Members} (h : Sorted members)
    (test : String × Json → Bool) : Sorted (members.filter test) :=
  List.Pairwise.filter test h

/-! ## Members put in one after the other -/

/-- The members with pairs put in, one after the other. -/
def insertAll (members : Members) (pairs : List (String × Json)) : Members :=
  pairs.foldl (fun members (key, value) => insert key value members) members

theorem mem_insertAll {members : Members} {pairs : List (String × Json)}
    {member : String × Json} (h : member ∈ members.insertAll pairs) :
    member ∈ pairs ∨ member ∈ members := by
  induction pairs generalizing members with
  | nil => exact .inr h
  | cons pair pairs ih =>
    rcases ih h with h | h
    · exact .inl (List.mem_cons_of_mem _ h)
    · rcases mem_insert h with rfl | h
      · exact .inl List.mem_cons_self
      · exact .inr h

theorem sorted_insertAll {members : Members} (h : Sorted members)
    (pairs : List (String × Json)) : Sorted (members.insertAll pairs) := by
  induction pairs generalizing members with
  | nil => exact h
  | cons pair pairs ih => exact ih (sorted_insert h pair.1 pair.2)

theorem sorted_ofList (pairs : List (String × Json)) : Sorted (ofList pairs) :=
  sorted_insertAll List.Pairwise.nil pairs

theorem get?_insertAll {pairs : List (String × Json)} (hdistinct : (keys pairs).Nodup)
    (members : Members) (key : String) :
    get? (members.insertAll pairs) key = (get? pairs key).or (get? members key) := by
  induction pairs generalizing members with
  | nil => rfl
  | cons pair pairs ih =>
    obtain ⟨k, v⟩ := pair
    rw [keys, List.map_cons, List.nodup_cons] at hdistinct
    change get? ((insert k v members).insertAll pairs) key = _
    rw [ih hdistinct.2, get?_cons, get?_insert]
    by_cases h : key = k
    · subst h
      have hnone : get? pairs key = none := get?_eq_none_iff.mpr hdistinct.1
      simp [hnone]
    · simp [h]

theorem get?_ofList {pairs : List (String × Json)} (hdistinct : (keys pairs).Nodup)
    (key : String) : get? (ofList pairs) key = get? pairs key := by
  change get? (insertAll [] pairs) key = _
  rw [get?_insertAll hdistinct, get?_nil, Option.or_none]

end Members

end CallFlow
