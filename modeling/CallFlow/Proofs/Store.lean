import CallFlow.Store
import Mathlib.Data.List.Nodup

/-!
# Calls to the store

The store is used by three calls: loading a flow, saving its definition, and marking it as deployed.
This module gives the three one type, so that a history of the store is a list of calls with the
store that each of them met.  The main facts say what one call does to the flow under an id: it
replaces the definition, it counts one version on, or it leaves the flow as it was.
-/

namespace CallFlow

namespace Store

/-- Two stores are equal when they hold the same flows. -/
@[ext]
theorem ext {store other : Store} (h : ∀ flowId, store.get? flowId = other.get? flowId) :
    store = other := by
  cases store
  cases other
  congr
  funext flowId
  exact h flowId

/-- A call to the store. -/
inductive Request where
  | load (clientId flowId : String)
  | save (clientId flowId : String) (nodes : List Node) (edges : List Edge)
  | commit (flowId : String) (expected : UInt64)

/-- The answer to a change, and the store after it; a change that fails leaves the store alone. -/
def settle (store : Store) : Except Failure (Flow × Store) → Except Failure Flow × Store
  | .ok (flow, changed) => (.ok flow, changed)
  | .error failure => (.error failure, store)

/-- The answer to a call, and the store after it. -/
def answer (store : Store) : Request → Except Failure Flow × Store
  | .load clientId flowId => (store.load clientId flowId, store)
  | .save clientId flowId nodes edges => store.settle (store.save clientId flowId nodes edges)
  | .commit flowId expected => store.settle (store.commit flowId expected)

/-! ## What each call answers -/

theorem owned?_eq_some_iff {store : Store} {clientId flowId : String} {flow : Flow} :
    store.owned? clientId flowId = some flow ↔
      store.get? flowId = some flow ∧ flow.clientId = clientId := by
  simp [owned?, Option.filter_eq_some_iff]

theorem load_eq_ok_iff {store : Store} {clientId flowId : String} {flow : Flow} :
    store.load clientId flowId = .ok flow ↔
      store.get? flowId = some flow ∧ flow.clientId = clientId := by
  rw [← owned?_eq_some_iff, load]
  cases store.owned? clientId flowId with
  | none => simp
  | some found => simp

theorem save_eq_ok {store changed : Store} {clientId flowId : String} {nodes : List Node}
    {edges : List Edge} {edited : Flow}
    (h : store.save clientId flowId nodes edges = .ok (edited, changed)) :
    ∃ flow, store.get? flowId = some flow ∧ edited = flow.withDefinition nodes edges ∧
      changed = store.insert edited := by
  rw [save] at h
  split at h
  · next flow hflow =>
    cases h
    exact ⟨flow, (owned?_eq_some_iff.mp hflow).1, rfl, rfl⟩
  · cases h

theorem commit_eq_ok {store changed : Store} {flowId : String} {expected : UInt64}
    {marked : Flow} (h : store.commit flowId expected = .ok (marked, changed)) :
    ∃ flow, store.get? flowId = some flow ∧ flow.version = expected ∧
      marked = flow.deployed ∧ changed = store.insert marked := by
  rw [commit] at h
  split at h
  · next flow hflow =>
    by_cases hversion : flow.version = expected
    · rw [if_pos hversion] at h
      cases h
      exact ⟨flow, hflow, hversion, rfl, rfl⟩
    · rw [if_neg hversion] at h
      cases h
  · cases h

/-- Marking a flow that is there fails only because its version is another one. -/
theorem commit_eq_error {store : Store} {flowId : String} {expected : UInt64} {flow : Flow}
    {failure : Failure} (hflow : store.get? flowId = some flow)
    (h : store.commit flowId expected = .error failure) :
    failure = .persistenceConflict flowId expected flow.version ∧ flow.version ≠ expected := by
  rw [commit, hflow] at h
  by_cases hversion : flow.version = expected
  · simp [hversion] at h
  · simp only [if_neg hversion, Except.error.injEq] at h
    exact ⟨h.symm, hversion⟩

end Store

/-! ## Histories of calls -/

/-- A call to the store: who made it, and the store that it met.  The caller is a deploy, known by
its place among the deploys, or nobody of them. -/
structure Access where
  caller : Option Nat
  request : Store.Request
  before : Store

namespace Access

/-- The answer to the call. -/
def result (access : Access) : Except Failure Flow :=
  (access.before.answer access.request).1

/-- The store that the call left behind. -/
def after (access : Access) : Store :=
  (access.before.answer access.request).2

theorem after_eq_before_of_load {access : Access} {clientId flowId : String}
    (h : access.request = .load clientId flowId) : access.after = access.before := by
  rw [after, h]
  rfl

theorem after_eq_before_of_commit {access : Access} {flowId : String}
    {expected : UInt64} {failure : Failure} (h : access.request = .commit flowId expected)
    (hcommit : access.before.commit flowId expected = .error failure) :
    access.after = access.before := by
  rw [after, h, Store.answer, hcommit]
  rfl

theorem after_of_commit {access : Access} {flowId : String} {expected : UInt64}
    {marked : Flow} {changed : Store} (h : access.request = .commit flowId expected)
    (hcommit : access.before.commit flowId expected = .ok (marked, changed)) :
    access.after = changed := by
  rw [after, h, Store.answer, hcommit]
  rfl

/-- The version that the call returned, if it marked the flow under an id. -/
def committed? (access : Access) (flowId : String) : Option UInt64 :=
  match access.request, access.result with
  | .commit id _, .ok flow => if id = flowId then some flow.version else none
  | _, _ => none

/-- The definition that the call saved, if it changed the flow under an id. -/
def saved? (access : Access) (flowId : String) : Option (List Node × List Edge) :=
  match access.request, access.result with
  | .save _ id nodes edges, .ok _ => if id = flowId then some (nodes, edges) else none
  | _, _ => none

/-- The flow under an id through one call: it stays, it is marked, or it gets another definition. -/
theorem effect_cases (access : Access) (flowId : String) :
    (access.committed? flowId = none ∧ access.saved? flowId = none ∧
      access.after.get? flowId = access.before.get? flowId) ∨
    (∃ flow, access.before.get? flowId = some flow ∧
      access.committed? flowId = some (flow.version + 1) ∧ access.saved? flowId = none ∧
      access.after.get? flowId = some flow.deployed) ∨
    (∃ flow nodes edges, access.before.get? flowId = some flow ∧
      access.committed? flowId = none ∧ access.saved? flowId = some (nodes, edges) ∧
      access.after.get? flowId = some (flow.withDefinition nodes edges)) := by
  obtain ⟨caller, request, before⟩ := access
  cases request with
  | load clientId id =>
    exact .inl ⟨by simp [committed?], by simp [saved?], rfl⟩
  | save clientId id nodes edges =>
    cases hsave : before.save clientId id nodes edges with
    | error failure =>
      refine .inl ⟨?_, ?_, ?_⟩ <;>
        simp [committed?, saved?, result, after, Store.answer, Store.settle, hsave]
    | ok saved =>
      obtain ⟨edited, changed⟩ := saved
      obtain ⟨flow, hflow, rfl, rfl⟩ := Store.save_eq_ok hsave
      by_cases hid : id = flowId
      · subst hid
        refine .inr (.inr ⟨flow, nodes, edges, hflow, ?_, ?_, ?_⟩)
        · simp [committed?]
        · simp [saved?, result, Store.answer, Store.settle, hsave]
        · simp [after, Store.answer, Store.settle, hsave, Flow.withDefinition,
            before.id_of_get? hflow]
      · refine .inl ⟨by simp [committed?], ?_, ?_⟩
        · simp [saved?, result, Store.answer, Store.settle, hsave, hid]
        · simp [after, Store.answer, Store.settle, hsave, Flow.withDefinition,
            before.id_of_get? hflow, Ne.symm hid]
  | commit id expected =>
    cases hcommit : before.commit id expected with
    | error failure =>
      refine .inl ⟨?_, ?_, ?_⟩ <;>
        simp [committed?, saved?, result, after, Store.answer, Store.settle, hcommit]
    | ok marked =>
      obtain ⟨marked, changed⟩ := marked
      obtain ⟨flow, hflow, rfl, rfl, rfl⟩ := Store.commit_eq_ok hcommit
      by_cases hid : id = flowId
      · subst hid
        refine .inr (.inl ⟨flow, hflow, ?_, ?_, ?_⟩)
        · simp [committed?, result, Store.answer, Store.settle, hcommit, Flow.deployed]
        · simp [saved?]
        · simp [after, Store.answer, Store.settle, hcommit, Flow.deployed,
            before.id_of_get? hflow]
      · refine .inl ⟨?_, by simp [saved?], ?_⟩
        · simp [committed?, result, Store.answer, Store.settle, hcommit, hid]
        · simp [after, Store.answer, Store.settle, hcommit, Flow.deployed,
            before.id_of_get? hflow, Ne.symm hid]

/-- No call takes a flow away. -/
theorem isSome_after_get? (access : Access) (flowId : String) :
    (access.after.get? flowId).isSome = (access.before.get? flowId).isSome := by
  rcases access.effect_cases flowId with ⟨-, -, h⟩ | ⟨flow, hflow, -, -, h⟩ |
    ⟨flow, nodes, edges, hflow, -, -, h⟩
  · rw [h]
  · rw [h, hflow]
    rfl
  · rw [h, hflow]
    rfl

end Access

/-- The calls of a history begin one after the other: each meets the store that the one in front
left behind, so that the history accounts for every change between its first and its last store. -/
def Linked (first : Store) : List Access → Store → Prop
  | [], last => last = first
  | access :: log, last => access.before = first ∧ Linked access.after log last

theorem Linked.snoc {first last : Store} {log : List Access} (h : Linked first log last)
    {access : Access} (hbefore : access.before = last) :
    Linked first (log ++ [access]) access.after := by
  induction log generalizing first with
  | nil => exact ⟨hbefore.trans h, rfl⟩
  | cons head log ih => exact ⟨h.1, ih h.2⟩

/-- A linked history falls into two linked histories at every call. -/
theorem Linked.split {first last : Store} {front back : List Access} {access : Access}
    (h : Linked first (front ++ access :: back) last) :
    Linked first front access.before ∧ Linked access.after back last := by
  induction front generalizing first with
  | nil => exact ⟨h.1, h.2⟩
  | cons head front ih => exact ⟨⟨h.1, (ih h.2).1⟩, (ih h.2).2⟩

/-- A linked history neither adds a flow nor takes one away. -/
theorem Linked.isSome_get? {first last : Store} {log : List Access} (h : Linked first log last)
    (flowId : String) : (last.get? flowId).isSome = (first.get? flowId).isSome := by
  induction log generalizing first with
  | nil =>
    obtain rfl : last = first := h
    rfl
  | cons access log ih =>
    obtain ⟨rfl, hrest⟩ := h
    rw [ih hrest, access.isSome_after_get?]

/-- The versions that the calls of a history returned for marking the flow under an id, in order. -/
def commits (flowId : String) (log : List Access) : List UInt64 :=
  log.filterMap fun access => access.committed? flowId

/-- The definitions that the calls of a history saved for the flow under an id, in order. -/
def edits (flowId : String) (log : List Access) : List (List Node × List Edge) :=
  log.filterMap fun access => access.saved? flowId

theorem commits_cons_of_none {flowId : String} {access : Access}
    (h : access.committed? flowId = none) (log : List Access) :
    commits flowId (access :: log) = commits flowId log := by
  simp [commits, h]

theorem commits_cons_of_some {flowId : String} {access : Access} {version : UInt64}
    (h : access.committed? flowId = some version) (log : List Access) :
    commits flowId (access :: log) = version :: commits flowId log := by
  simp [commits, h]

theorem edits_cons_of_none {flowId : String} {access : Access}
    (h : access.saved? flowId = none) (log : List Access) :
    edits flowId (access :: log) = edits flowId log := by
  simp [edits, h]

theorem edits_cons_of_some {flowId : String} {access : Access}
    {definition : List Node × List Edge} (h : access.saved? flowId = some definition)
    (log : List Access) :
    edits flowId (access :: log) = definition :: edits flowId log := by
  simp [edits, h]

/-- A flow that came of another one by calls to the store: its definition is the last one that was
saved, and what no call changes is as it was. -/
structure Flow.Follows (now origin : Flow) (saved : List (List Node × List Edge)) : Prop where
  id : now.id = origin.id
  clientId : now.clientId = origin.clientId
  name : now.name = origin.name
  agentId : now.agentId = origin.agentId
  definition : (now.nodes, now.edges) = saved.getLast?.getD (origin.nodes, origin.edges)

/-- A flow at the end of a linked history follows the one at its beginning. -/
theorem Linked.follows {first last : Store} {log : List Access} {flowId : String}
    {origin : Flow} (h : Linked first log last) (horigin : first.get? flowId = some origin) :
    ∃ now, last.get? flowId = some now ∧ now.Follows origin (edits flowId log) := by
  induction log generalizing first origin with
  | nil =>
    obtain rfl : last = first := h
    exact ⟨origin, horigin, rfl, rfl, rfl, rfl, rfl⟩
  | cons access log ih =>
    obtain ⟨rfl, hrest⟩ := h
    rcases access.effect_cases flowId with ⟨-, hsaved, hafter⟩ | ⟨flow, hflow, -, hsaved, hafter⟩ |
      ⟨flow, nodes, edges, hflow, -, hsaved, hafter⟩
    · rw [edits_cons_of_none hsaved]
      exact ih hrest (hafter.trans horigin)
    · obtain rfl : flow = origin := Option.some.inj (hflow.symm.trans horigin)
      rw [edits_cons_of_none hsaved]
      obtain ⟨now, hnow, hid, hclient, hname, hagent, hdefinition⟩ := ih hrest hafter
      exact ⟨now, hnow, hid, hclient, hname, hagent, hdefinition⟩
    · obtain rfl : flow = origin := Option.some.inj (hflow.symm.trans horigin)
      rw [edits_cons_of_some hsaved]
      obtain ⟨now, hnow, hid, hclient, hname, hagent, hdefinition⟩ := ih hrest hafter
      refine ⟨now, hnow, hid, hclient, hname, hagent, ?_⟩
      rw [List.getLast?_cons, Option.getD_some]
      exact hdefinition

/-- A history in which no call marks a flow keeps its version. -/
theorem Linked.version_eq {first last : Store} {log : List Access} {flowId : String}
    {origin now : Flow} (h : Linked first log last) (horigin : first.get? flowId = some origin)
    (hnow : last.get? flowId = some now) (hcommits : commits flowId log = []) :
    now.version = origin.version := by
  induction log generalizing first origin with
  | nil =>
    obtain rfl : last = first := h
    obtain rfl := Option.some.inj (horigin.symm.trans hnow)
    rfl
  | cons access log ih =>
    obtain ⟨rfl, hrest⟩ := h
    rcases access.effect_cases flowId with ⟨hmarked, -, hafter⟩ | ⟨flow, -, hmarked, -, -⟩ |
      ⟨flow, nodes, edges, hflow, hmarked, -, hafter⟩
    · rw [commits_cons_of_none hmarked] at hcommits
      exact ih hrest (hafter.trans horigin) hcommits
    · rw [commits_cons_of_some hmarked] at hcommits
      cases hcommits
    · obtain rfl := Option.some.inj (hflow.symm.trans horigin)
      rw [commits_cons_of_none hmarked] at hcommits
      have hkept := ih hrest hafter hcommits
      exact hkept

/-! ## Counting versions -/

/-- The version that no flow reaches while versions are counted: the last one of a 64-bit word. -/
def versionLimit : Nat := 0xFFFFFFFFFFFFFFFF

theorem toNat_succ_of_lt {version : UInt64} (h : version.toNat < versionLimit) :
    (version + 1).toNat = version.toNat + 1 := by
  rw [UInt64.toNat_add]
  rw [versionLimit] at h
  exact Nat.mod_eq_of_lt (by simpa using by omega)

/-- Whether or not versions stay below the limit, one call raises a version by one at most. -/
theorem Linked.version_le {first last : Store} {log : List Access} {flowId : String}
    {origin now : Flow} (h : Linked first log last) (horigin : first.get? flowId = some origin)
    (hnow : last.get? flowId = some now) :
    now.version.toNat ≤ origin.version.toNat + log.length := by
  induction log generalizing first origin with
  | nil =>
    obtain rfl : last = first := h
    obtain rfl := Option.some.inj (horigin.symm.trans hnow)
    exact Nat.le_refl _
  | cons access log ih =>
    obtain ⟨rfl, hrest⟩ := h
    rw [List.length_cons]
    rcases access.effect_cases flowId with ⟨-, -, hafter⟩ | ⟨flow, hflow, -, -, hafter⟩ |
      ⟨flow, nodes, edges, hflow, -, -, hafter⟩
    · exact Nat.le_trans (ih hrest (hafter.trans horigin)) (by omega)
    · obtain rfl := Option.some.inj (hflow.symm.trans horigin)
      have hnext : flow.deployed.version.toNat ≤ flow.version.toNat + 1 := by
        rw [Flow.deployed, UInt64.toNat_add]
        exact Nat.mod_le _ _
      exact Nat.le_trans (ih hrest hafter) (by omega)
    · obtain rfl := Option.some.inj (hflow.symm.trans horigin)
      exact Nat.le_trans (ih hrest hafter) (Nat.add_le_add_left (Nat.le_succ _) _)

/-- The bookkeeping of a flow that came of another one: one version for each call that marked it,
and it is active if it was marked. -/
structure Flow.Counts (now origin : Flow) (marked : List UInt64) : Prop where
  version : now.version.toNat = origin.version.toNat + marked.length
  consecutive : marked.map UInt64.toNat = List.range' (origin.version.toNat + 1) marked.length
  active : now.active = true ↔ origin.active = true ∨ marked ≠ []

/-- Along a linked history in which versions stay below the limit, each call that marks a flow
counts its version one on, and no other call touches it. -/
theorem Linked.counts {first last : Store} {log : List Access} {flowId : String}
    {origin : Flow} (h : Linked first log last) (horigin : first.get? flowId = some origin)
    (hlimit : ∀ access ∈ log, ∀ flow, access.before.get? flowId = some flow →
      flow.version.toNat < versionLimit) :
    ∃ now, last.get? flowId = some now ∧ now.Counts origin (commits flowId log) := by
  induction log generalizing first origin with
  | nil =>
    obtain rfl : last = first := h
    exact ⟨origin, horigin, rfl, rfl, by simp [commits]⟩
  | cons access log ih =>
    obtain ⟨rfl, hrest⟩ := h
    have hlater : ∀ other ∈ log, ∀ flow, other.before.get? flowId = some flow →
        flow.version.toNat < versionLimit :=
      fun other hother => hlimit other (List.mem_cons_of_mem access hother)
    rcases access.effect_cases flowId with ⟨hmarked, -, hafter⟩ |
      ⟨flow, hflow, hmarked, -, hafter⟩ | ⟨flow, nodes, edges, hflow, hmarked, -, hafter⟩
    · rw [commits_cons_of_none hmarked]
      exact ih hrest (hafter.trans horigin) hlater
    · obtain rfl : flow = origin := Option.some.inj (hflow.symm.trans horigin)
      have hnext : flow.deployed.version.toNat = flow.version.toNat + 1 :=
        toNat_succ_of_lt (hlimit access List.mem_cons_self flow hflow)
      obtain ⟨now, hnow, hversion, hconsecutive, hactive⟩ := ih hrest hafter hlater
      rw [commits_cons_of_some hmarked]
      refine ⟨now, hnow, ?_, ?_, ?_⟩
      · rw [hversion, hnext, List.length_cons]
        omega
      · rw [List.map_cons, List.length_cons, List.range'_succ]
        rw [hnext] at hconsecutive
        exact congrArg₂ List.cons hnext hconsecutive
      · rw [hactive]
        simp [Flow.deployed]
    · obtain rfl : flow = origin := Option.some.inj (hflow.symm.trans horigin)
      rw [commits_cons_of_none hmarked]
      obtain ⟨now, hnow, hversion, hconsecutive, hactive⟩ := ih hrest hafter hlater
      exact ⟨now, hnow, hversion, hconsecutive, hactive⟩

/-- No two calls mark a flow in the same version. -/
theorem Flow.Counts.eq_of_committed? {now origin : Flow} {flowId : String} {log : List Access}
    (h : now.Counts origin (commits flowId log)) {access other : Access} {version : UInt64}
    (haccess : access ∈ log) (hother : other ∈ log)
    (hversion : access.committed? flowId = some version)
    (hsame : other.committed? flowId = some version) : access = other := by
  have hdistinct : (commits flowId log).Nodup := by
    refine List.Nodup.of_map UInt64.toNat ?_
    rw [h.consecutive]
    exact List.nodup_range'
  clear h
  induction log with
  | nil => cases haccess
  | cons head log ih =>
    have hmem : ∀ {call : Access}, call ∈ log → call.committed? flowId = some version →
        version ∈ commits flowId log :=
      fun hcall hcommitted => List.mem_filterMap.mpr ⟨_, hcall, hcommitted⟩
    rcases List.mem_cons.mp haccess with rfl | hin
    · rcases List.mem_cons.mp hother with rfl | hlater
      · rfl
      · rw [commits_cons_of_some hversion, List.nodup_cons] at hdistinct
        exact absurd (hmem hlater hsame) hdistinct.1
    · rcases List.mem_cons.mp hother with rfl | hlater
      · rw [commits_cons_of_some hsame, List.nodup_cons] at hdistinct
        exact absurd (hmem hin hversion) hdistinct.1
      · refine ih hin hlater (hdistinct.sublist ?_)
        exact (List.sublist_cons_self head log).filterMap _

end CallFlow
