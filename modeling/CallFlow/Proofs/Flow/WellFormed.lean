import CallFlow.Flow.Basic
import Mathlib.Data.List.Nodup

/-!
# Well-formed flows

The nodes of a flow are told apart by their ids, so an id has to be visible and to belong to one
node only.  A flow is checked in one pass that remembers the ids it has met.  This module shows that
the pass decides the property of the flow as a whole, and that a flow without it is refused for the
first of its ids that is blank or was met before.
-/

namespace CallFlow.Flow

/-- The ids of the nodes, in order. -/
def nodeIds (flow : Flow) : List String :=
  flow.nodes.map Node.id

/-- A flow whose nodes have visible ids, no two of them the same.  Ids are compared as they are
written, blank characters included. -/
structure WellFormed (flow : Flow) : Prop where
  visible : ∀ id ∈ flow.nodeIds, ∃ c ∈ id.toList, Text.isBlank c = false
  distinct : flow.nodeIds.Nodup

/-! ## Offending ids -/

/-- The ways in which the id at a place offends, each with what is said of it. -/
inductive Offends (flowId : String) (ids : List String) (place : Nat) : String → Prop
  | blank {id : String} (hid : ids[place]? = some id)
      (hblank : ∀ c ∈ id.toList, Text.isBlank c = true) :
      Offends flowId ids place "node id must not be empty"
  | repeated {id : String} {earlier : Nat} (hid : ids[place]? = some id)
      (hearlier : earlier < place) (hsame : ids[earlier]? = some id) :
      Offends flowId ids place ("duplicate node id `" ++ id ++ "` in flow `" ++ flowId ++ "`")

/-- The first id that offends, with what is said of it. -/
structure FirstOffends (flowId : String) (ids : List String) (place : Nat) (detail : String) :
    Prop where
  offends : Offends flowId ids place detail
  first : ∀ earlier < place, ∀ other, ¬Offends flowId ids earlier other

variable {flowId : String} {ids : List String} {place : Nat} {detail : String}

theorem Offends.lt_length (h : Offends flowId ids place detail) : place < ids.length := by
  cases h with
  | blank hid _ => exact (List.getElem?_eq_some_iff.mp hid).1
  | repeated hid _ _ => exact (List.getElem?_eq_some_iff.mp hid).1

/-- The same is said of the first id that offends, however it is found.  A blank id that was met
before is no exception, since then an earlier one is blank. -/
theorem FirstOffends.unique {otherPlace : Nat} {otherDetail : String}
    (h : FirstOffends flowId ids place detail)
    (hother : FirstOffends flowId ids otherPlace otherDetail) :
    place = otherPlace ∧ detail = otherDetail := by
  have hplace : place = otherPlace := by
    rcases Nat.lt_trichotomy place otherPlace with hlt | heq | hgt
    · exact absurd h.offends (hother.first place hlt detail)
    · exact heq
    · exact absurd hother.offends (h.first otherPlace hgt otherDetail)
  subst hplace
  refine ⟨rfl, ?_⟩
  obtain ⟨hoffends, hfirst⟩ := h
  cases hoffends with
  | blank hid hblank =>
    cases hother.offends with
    | blank _ _ => rfl
    | repeated hid' hearlier hsame =>
      obtain rfl := Option.some.inj (hid.symm.trans hid')
      exact absurd (.blank hsame hblank) (hfirst _ hearlier _)
  | repeated hid hearlier hsame =>
    cases hother.offends with
    | blank hid' hblank =>
      obtain rfl := Option.some.inj (hid.symm.trans hid')
      exact absurd (.blank hsame hblank) (hfirst _ hearlier _)
    | repeated hid' _ _ =>
      obtain rfl := Option.some.inj (hid.symm.trans hid')
      rfl

/-- A flow is well formed if none of its ids offends. -/
theorem wellFormed_iff {flow : Flow} :
    flow.WellFormed ↔ ∀ place detail, ¬Offends flow.id flow.nodeIds place detail := by
  constructor
  · intro h place detail hoffends
    cases hoffends with
    | blank hid hblank =>
      obtain ⟨c, hc, hvisible⟩ := h.visible _ (List.mem_of_getElem? hid)
      exact Bool.false_ne_true (hvisible.symm.trans (hblank c hc))
    | repeated hid hearlier hsame =>
      have hlt := (List.getElem?_eq_some_iff.mp hid).1
      exact List.nodup_iff_getElem?_ne_getElem?.mp h.distinct _ _ hearlier hlt
        (hsame.trans hid.symm)
  · intro h
    constructor
    · intro id hid
      obtain ⟨place, hplace⟩ := List.mem_iff_getElem?.mp hid
      by_contra hinvisible
      refine h place _ (.blank hplace fun c hc => ?_)
      by_contra hc'
      exact hinvisible ⟨c, hc, (Bool.not_eq_true _).mp hc'⟩
    · refine List.nodup_iff_getElem?_ne_getElem?.mpr fun earlier place hearlier hlt hsame => ?_
      have hid := List.getElem?_eq_getElem hlt
      exact h place _ (.repeated hid hearlier (hsame.trans hid))

/-! ## One pass -/

/-- The id behind those that were met: it offends and is blamed, or it is met in turn. -/
theorem checkIds_step (flowId : String) (front back : List String) (id : String) :
    (∃ detail, Offends flowId (front ++ id :: back) front.length detail ∧
      checkIds flowId front.reverse (id :: back) = .error (.invalidFlow detail)) ∨
    (∀ detail, ¬Offends flowId (front ++ id :: back) front.length detail) ∧
      checkIds flowId front.reverse (id :: back) =
        checkIds flowId (front ++ [id]).reverse back := by
  have hid : (front ++ id :: back)[front.length]? = some id := by simp
  rw [checkIds, List.reverse_concat]
  by_cases hblank : Text.blank id = true
  · rw [if_pos hblank]
    exact .inl ⟨_, .blank hid (List.all_eq_true.mp hblank), rfl⟩
  · rw [if_neg hblank]
    by_cases hmet : id ∈ front
    · rw [if_pos (List.mem_reverse.mpr hmet)]
      obtain ⟨earlier, hearlier, hget⟩ := List.mem_iff_getElem.mp hmet
      refine .inl ⟨_, .repeated hid hearlier ?_, rfl⟩
      rw [List.getElem?_append_left hearlier, List.getElem?_eq_getElem hearlier, hget]
    · rw [if_neg (mt List.mem_reverse.mp hmet)]
      refine .inr ⟨fun detail hoffends => ?_, rfl⟩
      cases hoffends with
      | blank hid' hblank' =>
        obtain rfl := Option.some.inj (hid.symm.trans hid')
        exact hblank (List.all_eq_true.mpr hblank')
      | repeated hid' hearlier hsame =>
        obtain rfl := Option.some.inj (hid.symm.trans hid')
        rw [List.getElem?_append_left hearlier] at hsame
        exact hmet (List.mem_of_getElem? hsame)

/-- Behind ids of which none offends, the pass ends at the first that does, if there is one. -/
theorem checkIds_cases (flowId : String) (front back : List String)
    (hfront : ∀ place < front.length, ∀ detail, ¬Offends flowId (front ++ back) place detail) :
    ((∀ place detail, ¬Offends flowId (front ++ back) place detail) ∧
      checkIds flowId front.reverse back = .ok ()) ∨
    ∃ place detail, FirstOffends flowId (front ++ back) place detail ∧
      checkIds flowId front.reverse back = .error (.invalidFlow detail) := by
  -- By the ids that are left: one that passes goes over to `front`, and no place of the whole moves.
  induction back generalizing front with
  | nil =>
    refine .inl ⟨fun place detail hoffends => ?_, rfl⟩
    have hlt := hoffends.lt_length
    rw [List.append_nil] at hlt
    exact hfront place hlt detail hoffends
  | cons id back ih =>
    rcases checkIds_step flowId front back id with ⟨detail, hoffends, hcheck⟩ | ⟨hsound, hcheck⟩
    · exact .inr ⟨front.length, detail, ⟨hoffends, hfront⟩, hcheck⟩
    · rw [hcheck]
      rw [List.append_cons] at hfront hsound ⊢
      refine ih (front ++ [id]) fun place hlt detail => ?_
      rw [List.length_append, List.length_singleton] at hlt
      rcases Nat.lt_succ_iff_lt_or_eq.mp hlt with hlt | rfl
      · exact hfront place hlt detail
      · exact hsound detail

/-- A flow is well formed and passes, or it is refused for the first of its ids that offends. -/
theorem validate_cases (flow : Flow) :
    (flow.WellFormed ∧ flow.validate = .ok ()) ∨
    ∃ place detail, FirstOffends flow.id flow.nodeIds place detail ∧
      flow.validate = .error (.invalidFlow detail) := by
  have hvalidate : flow.validate = checkIds flow.id ([] : List String).reverse flow.nodeIds := rfl
  have hcases := checkIds_cases flow.id [] flow.nodeIds fun _ hlt => absurd hlt (Nat.not_lt_zero _)
  rw [List.nil_append, ← wellFormed_iff, ← hvalidate] at hcases
  exact hcases

/-! ## The verdict -/

/-- What comes of checking a flow: it is accepted if it is well formed, and blamed for the first id
that offends if it is not.  Places count from zero. -/
structure Verdict (flow : Flow) (result : Except Failure Unit) : Prop where
  accepts : result = .ok () ↔ flow.WellFormed
  rejects : ¬flow.WellFormed → ∃ place detail, FirstOffends flow.id flow.nodeIds place detail ∧
    result = .error (.invalidFlow detail)
  /-- Nothing else can be said of a flow with an id that offends. -/
  blames : ∀ place detail, FirstOffends flow.id flow.nodeIds place detail →
    result = .error (.invalidFlow detail)

/-- Checking a flow decides whether it is well formed, and blames the first id that offends. -/
theorem verdict_validate (flow : Flow) : flow.Verdict flow.validate := by
  rcases flow.validate_cases with ⟨hwellFormed, hok⟩ | ⟨place, detail, hfirst, herror⟩
  · rw [hok]
    exact ⟨iff_of_true rfl hwellFormed, fun h => absurd hwellFormed h,
      fun place detail hother => absurd hother.offends (wellFormed_iff.mp hwellFormed place detail)⟩
  · have hnot : ¬flow.WellFormed := fun h => wellFormed_iff.mp h place detail hfirst.offends
    rw [herror]
    refine ⟨iff_of_false nofun hnot, fun _ => ⟨place, detail, hfirst, rfl⟩, ?_⟩
    intro otherPlace otherDetail hother
    rw [(hfirst.unique hother).2]

/-- Ids that differ in blank characters only are distinct; the blank one stands in front of the
repeated one. -/
example :
    let ids := ["a", "a ", "\t", "a"]
    ({ new "f" "c" with nodes := ids.map (Node.ofKind · (.message none)) } : Flow).validate =
      .error (.invalidFlow "node id must not be empty") := by
  decide

end CallFlow.Flow
