import CallFlow.Proofs.Http.Percent
import Mathlib.Data.List.DropRight

/-!
# The records that requests find

The id of a record is written into an address as it is, and the address is read afterwards.  An id
with a slash, a mark that ends the path, an escape, or dots only is read as something else than it
was meant to be.  Every other id is the last segment of its address, and no two of them share one.
-/

namespace CallFlow

namespace Text

variable {test : Char → Bool}

theorem sublist_of_mem_fields {cs field : List Char} (h : field ∈ fields test cs) :
    field.Sublist cs ∧ ∀ c ∈ field, test c = false := by
  induction cs generalizing field with
  | nil =>
    obtain rfl := List.mem_singleton.mp h
    exact ⟨List.Sublist.refl _, List.forall_mem_nil _⟩
  | cons c cs ih =>
    rw [fields] at h
    by_cases hc : test c = true
    · rw [if_pos hc] at h
      rcases List.mem_cons.mp h with rfl | hrest
      · exact ⟨List.nil_sublist _, List.forall_mem_nil _⟩
      · exact ⟨(ih hrest).1.cons c, (ih hrest).2⟩
    · rw [if_neg hc] at h
      obtain ⟨first, rest, hfields⟩ : ∃ first rest, fields test cs = first :: rest :=
        List.exists_cons_of_ne_nil (fields_ne_nil cs)
      rw [hfields] at h
      rcases List.mem_cons.mp h with rfl | hrest
      · obtain ⟨hsub, hnone⟩ := ih (hfields ▸ List.mem_cons_self)
        exact ⟨hsub.cons_cons c, List.forall_mem_cons.mpr ⟨Bool.eq_false_iff.mpr hc, hnone⟩⟩
      · obtain ⟨hsub, hnone⟩ := ih (hfields ▸ List.mem_cons_of_mem first hrest)
        exact ⟨hsub.cons c, hnone⟩

theorem fields_append_of_forall {cs ds field : List Char} {rest : List (List Char)}
    (h : ∀ c ∈ cs, test c = false) (hds : fields test ds = field :: rest) :
    fields test (cs ++ ds) = (cs ++ field) :: rest := by
  induction cs with
  | nil => exact hds
  | cons c cs ih =>
    obtain ⟨hc, hcs⟩ := List.forall_mem_cons.mp h
    rw [List.cons_append, fields, if_neg (by simp [hc]), ih hcs]
    rfl

/-- Fields stay apart when their characters are written out without separators. -/
theorem fields_flatMap {write : Char → List Char} (hkept : ∀ c, test c = true → write c = [c])
    (hnone : ∀ c, test c = false → ∀ d ∈ write c, test d = false) (cs : List Char) :
    fields test (cs.flatMap write) = (fields test cs).map (·.flatMap write) := by
  induction cs with
  | nil => rfl
  | cons c cs ih =>
    rw [List.flatMap_cons, fields]
    by_cases hc : test c = true
    · rw [hkept c hc, if_pos hc, List.singleton_append, fields, if_pos hc, ih]
      rfl
    · obtain ⟨first, rest, hfields⟩ : ∃ first rest, fields test cs = first :: rest :=
        List.exists_cons_of_ne_nil (fields_ne_nil cs)
      rw [hfields, List.map_cons] at ih
      rw [if_neg hc, hfields, fields_append_of_forall (hnone c (Bool.eq_false_iff.mpr hc)) ih]
      rfl

end Text

namespace Http

open Text

/-- A text that is one segment of a path as it is written: nothing in it is dropped, ends the
segment, is decoded, or takes the segment out of the path. -/
structure IsSegment (cs : List Char) : Prop where
  whole : ∀ c ∈ cs, Url.isSlash c = false ∧ c ∉ ['?', '#', '\t', '\n', '\r']
  ending : ∀ hne : cs ≠ [], 0x20 < (cs.getLast hne).toNat
  unescaped : ¬HasEscape cs
  notSelf : cs ≠ ['.']
  notParent : cs ≠ ['.', '.']

theorem isSegment_nil : IsSegment [] :=
  ⟨List.forall_mem_nil _, fun hne => absurd rfl hne, not_hasEscape_nil, nofun, nofun⟩

namespace Url

theorem isSlash_encodeByte (byte : UInt8) : ∀ c ∈ encodeByte byte, isSlash c = false := by
  have hlt : byte.toNat < 256 := UInt8.toNat_lt byte
  have hdigit : ∀ n < 16, isSlash (hexDigit n) = false := by decide
  rw [encodeByte]
  simp only [List.forall_mem_cons]
  exact ⟨by decide, hdigit _ (by omega), hdigit _ (by omega), List.forall_mem_nil _⟩

/-- Encoding leaves the slashes of a path in their places. -/
theorem fields_encode (cs : List Char) : fields isSlash (encode isEncodedInPath cs) =
    (fields isSlash cs).map (encode isEncodedInPath) := by
  refine fields_flatMap (fun c hc => ?_) (fun c hc d hd => ?_) cs
  · have hslash : c = '/' ∨ c = '\\' := by simpa [isSlash] using hc
    rcases hslash with rfl | rfl <;> rfl
  · split at hd
    · obtain ⟨byte, -, hbyte⟩ := List.mem_flatMap.mp hd
      exact isSlash_encodeByte byte d hbyte
    · obtain rfl := List.mem_singleton.mp hd
      exact hc

/-- Writing out the dots of a segment does not change what it is decoded to. -/
theorem decodeBytes_dots (cs : List Char) : Host.decodeBytes (dots cs) = Host.decodeBytes cs := by
  have hdot (ds : List Char) :
      Host.decodeBytes ('.' :: ds) = String.utf8EncodeChar '.' ++ Host.decodeBytes ds :=
    Host.decodeBytes_cons fun h => absurd h.1 (by decide)
  induction cs using dots.induct with
  | case1 c cs hc ih =>
    have hdigit : hexDigit? c = some 14 := by
      rcases Bool.or_eq_true_iff.mp hc with he | he
      · rw [beq_iff_eq.mp he]
        rfl
      · rw [beq_iff_eq.mp he]
        rfl
    rw [dots, if_pos hc, hdot, ih, Host.decodeBytes_escape (a := 2) rfl hdigit]
    rfl
  | case2 c cs hc => rw [dots, if_neg hc]
  | case3 cs ih => rw [dots, hdot, hdot, ih]
  | case4 cs hescape hplain =>
    have hdots : dots cs = cs := by
      unfold dots
      split
      · exact absurd rfl (hescape _ _)
      · exact absurd rfl (hplain _)
      · rfl
    rw [hdots]

/-- An id that is a segment, once encoded, is no run of dots. -/
theorem stays_encode {cs : List Char} (h : IsSegment cs) : Stays (encode isEncodedInPath cs) := by
  have hne {run : List Char} (hrun : cs ≠ run) (hplain : Host.decodeBytes run = bytes run) :
      (dots (encode isEncodedInPath cs) == run) = false := by
    refine beq_false_of_ne fun hdots => hrun ?_
    rw [← bytes_inj, ← Host.decodeBytes_eq_iff.mpr h.unescaped, ← hplain, ← hdots,
      decodeBytes_dots, Host.decodeBytes_encode]
  exact ⟨hne h.notSelf rfl, hne h.notParent rfl⟩

/-- A path ends with the last of its segments, or with an empty one in the place of dots. -/
theorem exists_resolve_concat (segments resolved : List (List Char)) (last : List Char) :
    ∃ front ending, resolve resolved (segments ++ [last]) = front ++ [ending] ∧
      (ending = [] ∨ (ending = last ∧ Stays last)) := by
  obtain ⟨front, hfront⟩ := exists_resolve_append segments resolved
  have hresolve := hfront [last] (List.cons_ne_nil _ _)
  by_cases hdouble : isDoubleDot last = true
  · refine ⟨front.dropLast, [], ?_, .inl rfl⟩
    rw [hresolve, resolve, if_pos hdouble]
    rfl
  · by_cases hsingle : isSingleDot last = true
    · refine ⟨front, [], ?_, .inl rfl⟩
      rw [hresolve, resolve, if_neg hdouble, if_pos hsingle]
      rfl
    · refine ⟨front, last, ?_, .inr ⟨rfl, Bool.eq_false_iff.mpr hsingle,
        Bool.eq_false_iff.mpr hdouble⟩⟩
      rw [hresolve, resolve, if_neg hdouble, if_neg hsingle]
      rfl

/-! ## What is kept of an id -/

/-- What is kept of an id at the end of an address. -/
def kept (cs : List Char) : List Char :=
  resourceOf (cleanEnd cs)

theorem dropEndWhile_sublist (cs : List Char) : (dropEndWhile isOuter cs).Sublist cs :=
  (List.rdropWhile_prefix _ _).sublist

theorem cleanEnd_sublist (cs : List Char) : (cleanEnd cs).Sublist cs :=
  List.filter_sublist.trans (dropEndWhile_sublist cs)

theorem kept_sublist_cleanEnd (cs : List Char) : (kept cs).Sublist (cleanEnd cs) :=
  (List.takeWhile_sublist _).trans (List.takeWhile_sublist _)

theorem kept_sublist (cs : List Char) : (kept cs).Sublist cs :=
  (kept_sublist_cleanEnd cs).trans (cleanEnd_sublist cs)

theorem of_mem_kept {cs : List Char} {c : Char} (h : c ∈ kept cs) :
    c ∉ ['?', '#', '\t', '\n', '\r'] := by
  have hnumber := (List.takeWhile_sublist _).subset h
  have hclean := (List.takeWhile_sublist _).subset hnumber
  have hmark : (c != '?') = true := List.mem_takeWhile_imp (p := (· != '?')) h
  replace hnumber : (c != '#') = true := List.mem_takeWhile_imp (p := (· != '#')) hnumber
  have hbreak : (!isBreak c) = true := (List.mem_filter.mp hclean).2
  simp only [isBreak, Bool.not_eq_true', Bool.or_eq_false_iff, beq_eq_false_iff_ne] at hbreak
  simp only [List.mem_cons, List.not_mem_nil, or_false, not_or]
  exact ⟨bne_iff_ne.mp hmark, bne_iff_ne.mp hnumber, hbreak.1.1, hbreak.1.2, hbreak.2⟩

/-- An id is kept as it is if nothing in it surrounds, breaks or ends an address. -/
theorem kept_eq_self_iff {cs : List Char} : kept cs = cs ↔
    (∀ c ∈ cs, c ∉ ['?', '#', '\t', '\n', '\r']) ∧
      ∀ hne : cs ≠ [], 0x20 < (cs.getLast hne).toNat := by
  have hending : dropEndWhile isOuter cs = cs ↔
      ∀ hne : cs ≠ [], 0x20 < (cs.getLast hne).toNat := by
    refine List.rdropWhile_eq_self_iff.trans (forall_congr' fun hne => ?_)
    rw [isOuter, decide_eq_true_iff, Nat.not_le]
  constructor
  · intro h
    refine ⟨fun c hc => of_mem_kept (h.symm ▸ hc), hending.mp ?_⟩
    have hle := (kept_sublist_cleanEnd cs).trans List.filter_sublist
    rw [h] at hle
    exact (dropEndWhile_sublist cs).antisymm hle
  · rintro ⟨hwhole, hlast⟩
    have hne {c d : Char} (hc : c ∈ cs) (hd : d ∈ ['?', '#', '\t', '\n', '\r']) : c ≠ d := by
      rintro rfl
      exact hwhole c hc hd
    have hclean : cleanEnd cs = cs := by
      rw [cleanEnd, hending.mpr hlast, List.filter_eq_self]
      intro c hc
      simp [isBreak, hne hc (d := '\t'), hne hc (d := '\n'), hne hc (d := '\r')]
    have hnumber : cs.takeWhile (· != '#') = cs :=
      List.takeWhile_eq_self_iff.mpr fun c hc => bne_iff_ne.mpr (hne hc (by decide))
    have hmark : cs.takeWhile (· != '?') = cs :=
      List.takeWhile_eq_self_iff.mpr fun c hc => bne_iff_ne.mpr (hne hc (by decide))
    rw [kept, hclean, resourceOf, hnumber, hmark]

/-! ## The segment of an id -/

/-- The segment at the end of the address of a record is an encoded part of the id; if it is decoded
to the whole id, the id is a segment as it is written. -/
theorem isSegment_of_decodeBytes {cs last : List Char} (hlast : last ∈ fields isSlash (kept cs))
    (hstays : Stays (encode isEncodedInPath last))
    (hdecode : Host.decodeBytes (encode isEncodedInPath last) = bytes cs) : IsSegment cs := by
  obtain ⟨hpart, hslash⟩ := sublist_of_mem_fields hlast
  rw [Host.decodeBytes_encode] at hdecode
  have hsame : last = cs := by
    rcases eq_or_length_bytes_lt (hpart.trans (kept_sublist cs)) with heq | hlt
    · exact heq
    · have hle := Host.length_decodeBytes_le last
      rw [hdecode] at hle
      omega
  subst hsame
  have hkept : kept last = last := (kept_sublist last).antisymm hpart
  obtain ⟨hwhole, hending⟩ := kept_eq_self_iff.mp hkept
  refine ⟨fun c hc => ⟨hslash c hc, hwhole c hc⟩, hending, Host.decodeBytes_eq_iff.mp hdecode,
    ?_, ?_⟩
  · rintro rfl
    exact absurd hstays.1 (by decide)
  · rintro rfl
    exact absurd hstays.2 (by decide)

/-- Below a path, the address of a record goes on with the kind of the record and the segments of
what is kept of its id. -/
theorem path_continued {kind : List Char} (hkind : ∀ c ∈ kind, isPlain c = true) (root : Url)
    (front : List (List Char)) (cs : List Char) :
    (root.continued front (cleanEnd (kind ++ '/' :: cs))).path =
      (resolve (front ++ [kind]) ((fields isSlash (kept cs)).map (encode isEncodedInPath))).map
        String.ofList := by
  have hinert : ∀ c ∈ kind, Inert c := fun c hc => inert_of_isPlain (hkind c hc)
  have hclean : cleanEnd (kind ++ '/' :: cs) = kind ++ '/' :: cleanEnd cs := by
    rw [cleanEnd, dropEndWhile_append_cons (by decide), List.filter_append,
      filter_isBreak_of_inert hinert]
    rfl
  have hresource : resourceOf (kind ++ '/' :: cleanEnd cs) = kind ++ '/' :: kept cs := by
    rw [resourceOf, List.takeWhile_append_of_pos fun c hc => bne_iff_ne.mpr ((hinert c hc).ne rfl),
      List.takeWhile_append_of_pos fun c hc => bne_iff_ne.mpr ((hinert c hc).ne rfl)]
    rfl
  have hencode : encode isEncodedInPath (kind ++ '/' :: kept cs) =
      kind ++ '/' :: encode isEncodedInPath (kept cs) := by
    rw [encode, List.flatMap_append]
    exact congrArg (· ++ _) (encode_of_inert hinert)
  have hstays := stays_of_isPlain hkind
  rw [continued, hclean, hresource, hencode, fields_append_cons (by decide), fields_encode,
    fields_of_forall fun c hc => isSlash_of_isPlain (hkind c hc), List.singleton_append, resolve,
    if_neg (by simp [hstays.2]), if_neg (by simp [hstays.1])]

end Url

namespace Remote

variable {remote : Remote} {root : Url}

/-- The kind of a record, as addresses name it. -/
def kind : Binding → String
  | .inline _ => "agents"
  | .llmBound _ => "llms"

theorem isPlain_kind (target : Binding) : ∀ c ∈ (kind target).toList, isPlain c = true := by
  have hagents : "agents".toList.all isPlain = true := by decide
  have hllms : "llms".toList.all isPlain = true := by decide
  cases target
  · exact List.all_eq_true.mp hllms
  · exact List.all_eq_true.mp hagents

theorem toList_recordPath (call : Call) : (recordPath call).toList =
    '/' :: ((kind (record call)).toList ++ '/' :: call.recordId.toList) := by
  obtain ⟨name, -, hsegments, hpath⟩ := exists_segments call
  have hkind : segments (record call) = [kind (record call), call.recordId] := by
    cases call with
    | write target patch => cases target <;> rfl
    | fetchAgent _ => rfl
    | fetchLlm _ => rfl
  obtain ⟨rfl, -⟩ := List.cons.inj (hsegments.symm.trans hkind)
  rw [hpath]
  simp

/-- The record of a call is told by its kind and its id. -/
theorem record_inj {call other : Call} (hkind : kind (record call) = kind (record other))
    (hid : call.recordId = other.recordId) : record call = record other := by
  have hrecord (call : Call) : record call = .inline call.recordId ∨
      record call = .llmBound call.recordId := by
    cases call with
    | write target patch => cases target <;> simp [record, Call.recordId]
    | fetchAgent _ => exact .inl rfl
    | fetchLlm _ => exact .inr rfl
  rcases hrecord call with hcall | hcall <;> rcases hrecord other with hother | hother
  · rw [hcall, hother, hid]
  · rw [hcall, hother] at hkind
    exact absurd hkind (show "agents" ≠ "llms" by decide)
  · rw [hcall, hother] at hkind
    exact absurd hkind (show "llms" ≠ "agents" by decide)
  · rw [hcall, hother, hid]

/-- What is sent goes to the address that is read, with the key. -/
theorem request_eq_ok_iff {call : Call} {request : Request} : remote.request call = .ok request ↔
    ∃ url, Url.ofText? (remote.baseUrl ++ recordPath call) = some url ∧
      isHeaderValue ("Bearer " ++ remote.apiKey) = true ∧ url.isSendable = true ∧
        ⟨method call, url, "Bearer " ++ remote.apiKey, requestBody call⟩ = request := by
  rw [Remote.request]
  cases Url.ofText? (remote.baseUrl ++ recordPath call) with
  | none => simp
  | some url =>
    by_cases hkey : isHeaderValue ("Bearer " ++ remote.apiKey) = true
    · by_cases hsend : url.isSendable = true
      · simp [hkey, hsend]
      · simp [hkey, hsend]
    · simp [hkey]

/-- The addresses of records go on from a path that does not depend on them. -/
theorem StandsAt.exists_continued (h : remote.StandsAt root) :
    ∃ front : List (List Char), root.path.dropLast = front.map String.ofList ∧
      ∀ call, Url.ofText? (remote.baseUrl ++ recordPath call) = some (root.continued front
        (Url.cleanEnd ((kind (record call)).toList ++ '/' :: call.recordId.toList))) := by
  obtain ⟨front, hpath, hfront⟩ := h.exists_front
  refine ⟨front, by rw [hpath, List.dropLast_concat], fun call => ?_⟩
  have htext : recordPath call = String.ofList
      ('/' :: ((kind (record call)).toList ++ '/' :: call.recordId.toList)) := by
    rw [← toList_recordPath, String.ofList_toList]
  rw [htext, hfront]

/-! ## Finding a record -/

/-- An address is that of the record of a call: its path is the path of the root, the kind of the
record, and one segment that is decoded to the id. -/
def Finds (root : Url) (call : Call) (url : Url) : Prop :=
  ∃ segment, url.path = root.path.dropLast ++ [kind (record call), segment] ∧
    Host.decodeText? segment.toList = some call.recordId

/-- The address of the record of a call, with the id encoded. -/
def recordUrl (root : Url) (call : Call) : Url :=
  root.below [kind (record call),
    String.ofList (Url.encode Url.isEncodedInPath call.recordId.toList)]

theorem finds_recordUrl {call : Call} (hid : IsSegment call.recordId.toList) :
    Finds root call (recordUrl root call) := by
  refine ⟨_, rfl, Host.decodeText?_eq_some_iff.mpr ?_⟩
  rw [String.toList_ofList, Host.decodeBytes_encode, Host.decodeBytes_eq_iff.mpr hid.unescaped]

/-- The address of a record whose id is a segment is read as it was meant. -/
theorem StandsAt.ofText?_of_isSegment (h : remote.StandsAt root) {call : Call}
    (hid : IsSegment call.recordId.toList) :
    Url.ofText? (remote.baseUrl ++ recordPath call) = some (recordUrl root call) := by
  obtain ⟨front, hpath, hfront⟩ := h.exists_continued
  have hkept : Url.kept call.recordId.toList = call.recordId.toList :=
    Url.kept_eq_self_iff.mpr ⟨fun c hc => (hid.whole c hc).2, hid.ending⟩
  have hfields : fields Url.isSlash call.recordId.toList = [call.recordId.toList] :=
    fields_of_forall fun c hc => (hid.whole c hc).1
  have hstays : ∀ segment ∈ [Url.encode Url.isEncodedInPath call.recordId.toList],
      Url.Stays segment := List.forall_mem_singleton.mpr (Url.stays_encode hid)
  have hmarks : ∀ c ∈ (kind (record call)).toList ++ '/' :: call.recordId.toList,
      c ≠ '?' ∧ c ≠ '#' := by
    rw [List.forall_mem_append, List.forall_mem_cons]
    refine ⟨fun c hc => ?_, by decide, fun c hc => ?_⟩
    · have hinert := inert_of_isPlain (isPlain_kind _ c hc)
      exact ⟨hinert.ne rfl, hinert.ne rfl⟩
    · have hwhole := (hid.whole c hc).2
      simp only [List.mem_cons, not_or] at hwhole
      exact ⟨hwhole.1, hwhole.2.1⟩
  have hurl := Url.continued_of_forall h.query h.fragment front fun c hc =>
    hmarks c ((Url.cleanEnd_sublist _).subset hc)
  have hends := congrArg Url.path hurl
  rw [Url.path_continued (isPlain_kind _), hkept, hfields, List.map_singleton,
    Url.resolve_of_stays hstays] at hends
  dsimp only at hends
  rw [hfront, hurl, recordUrl, Url.below, hpath, ← hends]
  simp

/-- Every request that finds its record has an id that is a segment. -/
theorem StandsAt.isSegment_of_finds (h : remote.StandsAt root) {call : Call} {url : Url}
    (hurl : Url.ofText? (remote.baseUrl ++ recordPath call) = some url)
    (hfinds : Finds root call url) : IsSegment call.recordId.toList := by
  obtain ⟨front, -, hfront⟩ := h.exists_continued
  obtain ⟨segment, hsegment, hdecode⟩ := hfinds
  rw [hfront] at hurl
  obtain rfl := Option.some.inj hurl
  rw [Url.path_continued (isPlain_kind _)] at hsegment
  rcases (fields Url.isSlash (Url.kept call.recordId.toList)).eq_nil_or_concat with
    hnone | ⟨before, last, hfields⟩
  · exact absurd hnone (fields_ne_nil _)
  · obtain ⟨behind, ending, hresolve, hending⟩ := Url.exists_resolve_concat
      (before.map (Url.encode Url.isEncodedInPath)) (front ++ [(kind (record call)).toList])
      (Url.encode Url.isEncodedInPath last)
    rw [hfields, List.concat_eq_append, List.map_append, List.map_singleton, hresolve,
      List.map_append, List.map_singleton] at hsegment
    obtain ⟨-, hlast⟩ := List.append_inj' (hsegment.trans (List.append_cons _ _ _)) rfl
    obtain rfl := List.singleton_inj.mp hlast
    rw [String.toList_ofList, Host.decodeText?_eq_some_iff] at hdecode
    rcases hending with rfl | ⟨rfl, hstays⟩
    · have hempty : bytes [] = bytes call.recordId.toList := hdecode
      rw [← bytes_inj.mp hempty]
      exact isSegment_nil
    · have hmem : last ∈ fields Url.isSlash (Url.kept call.recordId.toList) := by
        rw [hfields, List.concat_eq_append]
        exact List.mem_append_right before (List.mem_singleton_self last)
      exact Url.isSegment_of_decodeBytes hmem hstays hdecode

/-- Two addresses that show the same path are those of one record at most. -/
theorem record_eq_of_pathText_eq {call other : Call} {url otherUrl : Url}
    (hfinds : Finds root call url) (hother : Finds root other otherUrl)
    (hsame : url.pathText = otherUrl.pathText) : record call = record other := by
  obtain ⟨segment, hpath, hdecode⟩ := hfinds
  obtain ⟨otherSegment, hotherPath, hotherDecode⟩ := hother
  have htext {url : Url} {front : List String} {kind segment : String}
      (hpath : url.path = front ++ [kind, segment]) :
      url.pathText.toList = (String.join (front.map ("/" ++ ·))).toList ++
        '/' :: (kind.toList ++ '/' :: segment.toList) := by
    rw [Url.pathText, hpath]
    simp
  have hbefore (target : Binding) (segment : String) :
      ((kind target).toList ++ '/' :: segment.toList).takeWhile (· != '/') =
        (kind target).toList := by
    rw [takeWhile_append_cons rfl, List.takeWhile_eq_self_iff]
    exact fun c hc => bne_iff_ne.mpr (ne_of_isPlain (isPlain_kind target c hc) (by decide))
  have hends := String.toList_inj.mpr hsame
  rw [htext hpath, htext hotherPath, List.append_cancel_left_eq, List.cons_inj_right] at hends
  have hkind := congrArg (List.takeWhile (· != '/')) hends
  rw [hbefore, hbefore] at hkind
  rw [hkind, List.append_cancel_left_eq, List.cons_inj_right] at hends
  rw [hends, hotherDecode] at hdecode
  exact record_inj (String.toList_inj.mp hkind) (Option.some.inj hdecode).symm

/-- A request finds its record exactly if the id is a segment as it is written, so that requests for
different records with such ids never show the same path.  No such id is refused. -/
theorem StandsAt.request_finds_iff (h : remote.StandsAt root) :
    (∀ call request, remote.request call = .ok request →
      (Finds root call request.url ↔ IsSegment call.recordId.toList)) ∧
    (∀ call other request otherRequest, remote.request call = .ok request →
      remote.request other = .ok otherRequest → IsSegment call.recordId.toList →
        IsSegment other.recordId.toList → record call ≠ record other →
          request.url.pathText ≠ otherRequest.url.pathText) ∧
    (∀ call, IsSegment call.recordId.toList → isHeaderValue ("Bearer " ++ remote.apiKey) = true →
      (recordUrl root call).isSendable = true → remote.request call =
        .ok ⟨method call, recordUrl root call, "Bearer " ++ remote.apiKey, requestBody call⟩) := by
  have hfinds : ∀ call request, remote.request call = .ok request →
      (Finds root call request.url ↔ IsSegment call.recordId.toList) := by
    intro call request hrequest
    obtain ⟨url, hurl, -, -, rfl⟩ := request_eq_ok_iff.mp hrequest
    constructor
    · exact h.isSegment_of_finds hurl
    · intro hid
      rw [h.ofText?_of_isSegment hid] at hurl
      obtain rfl := Option.some.inj hurl
      exact finds_recordUrl hid
  refine ⟨hfinds, ?_, ?_⟩
  · intro call other request otherRequest hrequest hother hid hotherId hne hsame
    exact hne (record_eq_of_pathText_eq ((hfinds call request hrequest).mpr hid)
      ((hfinds other otherRequest hother).mpr hotherId) hsame)
  · intro call hid hkey hsend
    exact request_eq_ok_iff.mpr ⟨_, h.ofText?_of_isSegment hid, hkey, hsend, rfl⟩

/-- A service below a path. -/
def versioned : Remote :=
  ⟨"https://voice.example.com/v2", "k"⟩

/-- The address `https://voice.example.com/v2/`. -/
def versionedRoot : Url :=
  ⟨.https, .domain ["voice", "example", "com"], none, ["v2", ""], none, none⟩

theorem standsAt_versioned : versioned.StandsAt versionedRoot :=
  ⟨by decide +kernel, rfl, rfl⟩

/-- A percent sign without digits and a blank do no harm. -/
theorem request_finds_iff_of_versioned :
    let call : Call := .fetchAgent "50% off"
    versioned.StandsAt versionedRoot ∧ ∃ request, versioned.request call = .ok request ∧
      Finds versionedRoot call request.url ∧ request.url.pathText = "/v2/agents/50%%20off" := by
  intro call
  obtain ⟨hfinds, -, hsent⟩ := standsAt_versioned.request_finds_iff
  have hall : (call.recordId.toList.all fun c =>
      !Url.isSlash c && decide (c ∉ ['?', '#', '\t', '\n', '\r'])) = true := by decide
  have hwhole : ∀ c ∈ call.recordId.toList,
      Url.isSlash c = false ∧ c ∉ ['?', '#', '\t', '\n', '\r'] := by
    intro c hc
    simpa using List.all_eq_true.mp hall c hc
  have hid : IsSegment call.recordId.toList :=
    ⟨hwhole, by decide, Host.decodeBytes_eq_iff.mp (by decide), by decide, by decide⟩
  have hrequest := hsent call hid (by decide) (by decide +kernel)
  exact ⟨standsAt_versioned, _, hrequest, (hfinds call _ hrequest).mpr hid, by decide +kernel⟩

/-- A number sign and what stands behind it are not sent: the request goes to another record, whose
own request goes there as well. -/
theorem not_forall_finds :
    (¬∀ (remote : Remote) root call request, remote.StandsAt root → blank call.recordId = false →
      remote.request call = .ok request → Finds root call request.url) ∧
    ¬∀ (remote : Remote) root call other request otherRequest, remote.StandsAt root →
      blank call.recordId = false → blank other.recordId = false →
        remote.request call = .ok request → remote.request other = .ok otherRequest →
          record call ≠ record other → request.url.pathText ≠ otherRequest.url.pathText := by
  have hsent (id : String) (url : Url)
      (hurl : Url.ofText? (versioned.baseUrl ++ recordPath (.fetchAgent id)) = some url)
      (hsend : url.isSendable = true) :=
    request_eq_ok_iff.mpr ⟨url, hurl, show isHeaderValue "Bearer k" = true by decide, hsend, rfl⟩
  have hwith := hsent "a#b"
    { versionedRoot with path := ["v2", "agents", "a"], fragment := some "b" }
    (by decide +kernel) (by decide +kernel)
  have hwithout := hsent "a" { versionedRoot with path := ["v2", "agents", "a"] }
    (by decide +kernel) (by decide +kernel)
  constructor
  · intro h
    obtain ⟨segment, hpath, hdecode⟩ := h _ _ _ _ standsAt_versioned rfl hwith
    have hlast : some "a" = some segment := congrArg List.getLast? hpath
    obtain rfl := Option.some.inj hlast
    exact absurd (Host.decodeText?_eq_some_iff.mp hdecode) (by decide)
  · intro h
    exact h _ _ _ _ _ _ standsAt_versioned rfl rfl hwith hwithout (by decide) rfl

end Remote

end Http

end CallFlow
