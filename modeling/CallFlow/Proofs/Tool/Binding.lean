import CallFlow.Proofs.Json.Canonical
import CallFlow.Proofs.Text.Word
import CallFlow.Tool.Binding

/-!
# What binding changes, and what it leaves alone

Binding a tool to a client completes a relative address and puts the headers and the identity of the
client over those of the tool.  Nothing else changes.  Bound to the same client again, the tool stays
as it is, unless its completed address looks relative once more.
-/

namespace CallFlow

open Json

/-! ## Two layers of members -/

namespace Members

theorem insertTexts_eq (members : Members) (texts : List (String × String)) :
    members.insertTexts texts =
      members.insertAll (texts.map fun (key, text) => (key, Json.string text)) := by
  rw [insertTexts, insertAll, List.foldl_map]

/-- Of texts put under one key the last counts, and they count before what was there. -/
theorem get?_insertTexts (members : Members) (texts : List (String × String)) (key : String) :
    (members.insertTexts texts).get? key =
      ((texts.reverse.lookup key).map Json.string).or (members.get? key) := by
  induction texts generalizing members with
  | nil => rfl
  | cons entry texts ih =>
    obtain ⟨first, text⟩ := entry
    change ((members.insert first (.string text)).insertTexts texts).get? key = _
    rw [ih, get?_insert, List.reverse_cons, List.lookup_append, Option.map_or, Option.or_assoc]
    by_cases h : key = first
    · simp [h]
    · simp [h, List.lookup_cons, beq_false_of_ne h]

theorem sorted_insertTexts {members : Members} (h : Sorted members)
    (texts : List (String × String)) : Sorted (members.insertTexts texts) := by
  rw [insertTexts_eq]
  exact sorted_insertAll h _

/-- What is held under a key as an object: its members, or none if it is anything else. -/
inductive HasObject (members : Members) (key : String) : Members → Prop
  | object {inner : Members} (h : members.get? key = some (.object inner)) :
    HasObject members key inner
  | other (h : ∀ inner, members.get? key ≠ some (.object inner)) : HasObject members key []

theorem hasObject_objectAt (members : Members) (key : String) :
    members.HasObject key (members.objectAt key) := by
  rw [objectAt]
  cases hvalue : members.get? key with
  | none => exact .other fun inner h => by rw [hvalue] at h; cases h
  | some value =>
    cases value with
    | object inner => exact .object hvalue
    | _ => exact .other fun inner h => by rw [hvalue] at h; cases h

theorem objectAt_of_get? {members : Members} {key : String} {inner : Members}
    (h : members.get? key = some (.object inner)) : members.objectAt key = inner := by
  rw [objectAt, h]
  rfl

theorem objectAt_congr {members others : Members} {key : String}
    (h : members.get? key = others.get? key) : members.objectAt key = others.objectAt key := by
  rw [objectAt, h, objectAt]

/-- The objects in members whose objects are in order are in order. -/
theorem sorted_objectAt {members : Members} (h : (Json.object members).Canonical) (key : String) :
    (members.objectAt key).Sorted := by
  have hobject := hasObject_objectAt members key
  generalize members.objectAt key = inner at hobject
  cases hobject with
  | object hget =>
    exact (canonical_object_iff.mp ((canonical_object_iff.mp h).2 _ (mem_of_get? hget))).1
  | other => exact List.Pairwise.nil

end Members

namespace Client

/-- The text of a header; of a repeated name the last one counts. -/
def header? (client : Client) (name : String) : Option String :=
  client.headers.reverse.lookup name

/-- Headers with those of a client over them. -/
def headersOver (client : Client) (own : Members) : Members :=
  (own.insertTexts client.headers).insert "X-Client-Id" (.string client.id)

/-- The parameters of a query with the identity of a client over them. -/
def queryOver (client : Client) (own : Members) : Members :=
  own.insert "client_id" (.string client.id)

variable (client : Client) {own : Members}

theorem get?_headersOver (own : Members) (name : String) :
    (client.headersOver own).get? name =
      if name = "X-Client-Id" then some (.string client.id)
      else ((client.header? name).map Json.string).or (own.get? name) := by
  rw [headersOver, Members.get?_insert, Members.get?_insertTexts, header?]

theorem get?_queryOver (own : Members) (name : String) :
    (client.queryOver own).get? name =
      if name = "client_id" then some (.string client.id) else own.get? name := by
  rw [queryOver, Members.get?_insert]

theorem sorted_headersOver (h : own.Sorted) : (client.headersOver own).Sorted :=
  Members.sorted_insert (Members.sorted_insertTexts h _) _ _

theorem sorted_queryOver (h : own.Sorted) : (client.queryOver own).Sorted :=
  Members.sorted_insert h _ _

/-- Headers that a client was put over do not change when it is put over them again. -/
theorem headersOver_headersOver (h : own.Sorted) :
    client.headersOver (client.headersOver own) = client.headersOver own := by
  have hover := client.sorted_headersOver h
  refine (client.sorted_headersOver hover).ext hover fun name => ?_
  rw [get?_headersOver, get?_headersOver]
  by_cases hname : name = "X-Client-Id"
  · rw [if_pos hname, if_pos hname]
  · rw [if_neg hname, if_neg hname]
    cases client.header? name <;> rfl

theorem queryOver_queryOver (h : own.Sorted) :
    client.queryOver (client.queryOver own) = client.queryOver own := by
  have hover := client.sorted_queryOver h
  refine (client.sorted_queryOver hover).ext hover fun name => ?_
  rw [get?_queryOver, get?_queryOver]
  by_cases hname : name = "client_id"
  · rw [if_pos hname, if_pos hname]
  · rw [if_neg hname]

end Client

/-! ## One member at a time -/

namespace Binder

/-- What binding makes of an address. -/
def locate (binder : Binder) (url : Option Json) : Option Json :=
  ((absoluteUrl? binder.baseUrl url).map Json.string).or url

variable (binder : Binder) (client : Client) {extra : Members}

/-- What a bound tool has under each key. -/
theorem get?_bindExtra (extra : Members) (key : String) :
    (binder.bindExtra extra client).get? key =
      if key = "query_params" then some (.object (client.queryOver (extra.objectAt "query_params")))
      else if key = "headers" then some (.object (client.headersOver (extra.objectAt "headers")))
      else if key = "url" then binder.locate (extra.get? "url")
      else extra.get? key := by
  rw [bindExtra, locate]
  cases absoluteUrl? binder.baseUrl (extra.get? "url") with
  | none =>
    dsimp only
    rw [Members.get?_insert, Members.get?_insert]
    by_cases hurl : key = "url"
    · simp [hurl]
    · simp [hurl, Client.queryOver, Client.headersOver]
  | some url =>
    have hother {key : String} (hkey : key ≠ "url") :
        (extra.insert "url" (.string url)).get? key = extra.get? key := by
      rw [Members.get?_insert, if_neg hkey]
    dsimp only
    rw [Members.get?_insert, Members.get?_insert, Members.get?_insert,
      Members.objectAt_congr (hother (by decide)), Members.objectAt_congr (hother (by decide))]
    rfl

theorem sorted_bindExtra (h : extra.Sorted) : (binder.bindExtra extra client).Sorted := by
  rw [bindExtra]
  refine Members.sorted_insert (Members.sorted_insert ?_ _ _) _ _
  cases absoluteUrl? binder.baseUrl (extra.get? "url") with
  | none => exact h
  | some url => exact Members.sorted_insert h _ _

theorem absoluteUrl?_of_relative {base url : String} (h : url.toList.head? = some '/') :
    absoluteUrl? base (some (.string url)) = some (base ++ url) := by
  rw [absoluteUrl?, if_pos h]

theorem absoluteUrl?_eq_none {base : String} {url : Option Json}
    (h : ∀ path, url = some (.string path) → path.toList.head? ≠ some '/') :
    absoluteUrl? base url = none := by
  cases url with
  | none => rfl
  | some value =>
    cases value with
    | string path => rw [absoluteUrl?, if_neg (h path rfl)]
    | _ => rfl

/-- Behind a base address that does not look relative, a completed address is complete; behind an
empty one it comes to the same again. -/
theorem locate_locate (h : binder.baseUrl.toList.head? ≠ some '/') (url : Option Json) :
    binder.locate (binder.locate url) = binder.locate url := by
  by_cases hrelative : ∃ path, url = some (.string path) ∧ path.toList.head? = some '/'
  · obtain ⟨path, rfl, hpath⟩ := hrelative
    have honce : binder.locate (some (.string path)) = some (.string (binder.baseUrl ++ path)) := by
      rw [locate, absoluteUrl?_of_relative hpath]
      rfl
    rw [honce]
    by_cases hbase : binder.baseUrl = ""
    · rw [hbase, String.empty_append, honce, hbase, String.empty_append]
    · have hcomplete : ∀ text, some (Json.string (binder.baseUrl ++ path)) = some (.string text) →
          text.toList.head? ≠ some '/' := by
        rintro _ ⟨⟩
        obtain ⟨c, cs, hcs⟩ := List.exists_cons_of_ne_nil
          (fun hnil => hbase (String.toList_eq_nil_iff.mp hnil))
        rw [hcs] at h
        rw [String.toList_append, hcs]
        exact h
      rw [locate, absoluteUrl?_eq_none hcomplete]
      rfl
  · have hnone : absoluteUrl? binder.baseUrl url = none :=
      absoluteUrl?_eq_none fun path hpath hhead => hrelative ⟨path, hpath, hhead⟩
    have honce : binder.locate url = url := by
      rw [locate, hnone]
      rfl
    rw [honce, honce]

/-- Binding to a client a second time changes nothing. -/
theorem bindExtra_bindExtra (h : binder.baseUrl.toList.head? ≠ some '/')
    (hextra : (Json.object extra).Canonical) :
    binder.bindExtra (binder.bindExtra extra client) client = binder.bindExtra extra client := by
  have hbound := binder.sorted_bindExtra client (canonical_object_iff.mp hextra).1
  have hheaders : (binder.bindExtra extra client).objectAt "headers" =
      client.headersOver (extra.objectAt "headers") :=
    Members.objectAt_of_get? (binder.get?_bindExtra client extra "headers")
  have hquery : (binder.bindExtra extra client).objectAt "query_params" =
      client.queryOver (extra.objectAt "query_params") :=
    Members.objectAt_of_get? (binder.get?_bindExtra client extra "query_params")
  have hurl : (binder.bindExtra extra client).get? "url" = binder.locate (extra.get? "url") :=
    binder.get?_bindExtra client extra "url"
  refine (binder.sorted_bindExtra client hbound).ext hbound fun key => ?_
  rw [get?_bindExtra, hheaders, hquery, hurl,
    client.headersOver_headersOver (Members.sorted_objectAt hextra _),
    client.queryOver_queryOver (Members.sorted_objectAt hextra _), binder.locate_locate h,
    get?_bindExtra]
  split_ifs <;> rfl

end Binder

/-! ## The law of binding -/

/-- What stands in front of the slashes at the end of a text. -/
structure Text.InFrontOfSlashes (front text : String) : Prop where
  behind : ∃ slashes : List Char, text.toList = front.toList ++ slashes ∧ ∀ c ∈ slashes, c = '/'
  ending : front.toList.getLast? ≠ some '/'

theorem Text.inFrontOfSlashes_dropTrailingSlashes (text : String) :
    InFrontOfSlashes (dropTrailingSlashes text) text := by
  constructor
  · refine ⟨takeEndWhile (· == '/') text.toList, ?_, fun c hc => ?_⟩
    · rw [dropTrailingSlashes, String.toList_ofList, dropEndWhile_append_takeEndWhile]
    · rw [takeEndWhile, List.mem_reverse] at hc
      simpa using List.mem_takeWhile_imp hc
  · rw [dropTrailingSlashes, String.toList_ofList, dropEndWhile, List.getLast?_reverse]
    intro hlast
    have hstops := List.head?_dropWhile_not (· == '/') text.toList.reverse
    rw [hlast] at hstops
    cases hstops

namespace Binder

/-- A tool bound to a client, member by member, where `front` is the address that relative addresses
stand behind. -/
structure Scopes (front : String) (client : Client) (tool bound : Tool) : Prop where
  kept : bound = { tool with extra := bound.extra }
  others : ∀ key ∉ ["url", "headers", "query_params"],
    bound.extra.get? key = tool.extra.get? key
  completes : ∀ path, tool.extra.get? "url" = some (.string path) →
    path.toList.head? = some '/' → bound.extra.get? "url" = some (.string (front ++ path))
  leaves : (∀ path, tool.extra.get? "url" = some (.string path) →
    path.toList.head? ≠ some '/') → bound.extra.get? "url" = tool.extra.get? "url"
  headers : ∃ own headers : Members, tool.extra.HasObject "headers" own ∧
    bound.extra.get? "headers" = some (.object headers) ∧
    ∀ name, headers.get? name =
      if name = "X-Client-Id" then some (.string client.id)
      else ((client.header? name).map Json.string).or (own.get? name)
  query : ∃ own query : Members, tool.extra.HasObject "query_params" own ∧
    bound.extra.get? "query_params" = some (.object query) ∧
    ∀ name, query.get? name =
      if name = "client_id" then some (.string client.id) else own.get? name

theorem scopes (binder : Binder) (tool : Tool) (client : Client) :
    Scopes binder.baseUrl client tool (binder.bind tool client) where
  kept := rfl
  others key hkey := by
    simp only [List.mem_cons, List.not_mem_nil, or_false, not_or] at hkey
    rw [bind, get?_bindExtra, if_neg hkey.2.2, if_neg hkey.2.1, if_neg hkey.1]
  completes path hpath hhead := by
    have hurl := binder.get?_bindExtra client tool.extra "url"
    rw [hpath, locate, absoluteUrl?_of_relative hhead] at hurl
    exact hurl
  leaves hurl := by
    have hbound := binder.get?_bindExtra client tool.extra "url"
    rw [locate, absoluteUrl?_eq_none hurl] at hbound
    exact hbound
  headers := ⟨_, _, Members.hasObject_objectAt _ _, binder.get?_bindExtra client _ "headers",
    client.get?_headersOver _⟩
  query := ⟨_, _, Members.hasObject_objectAt _ _, binder.get?_bindExtra client _ "query_params",
    client.get?_queryOver _⟩

/-- Binding scopes a tool to a client and touches nothing else; a second time it touches nothing at
all, unless completed addresses look relative. -/
theorem scopes_bind (base : String) (tool : Tool) (client : Client) :
    let binder := ofUrl base
    Text.InFrontOfSlashes binder.baseUrl base ∧
      Scopes binder.baseUrl client tool (binder.bind tool client) ∧
      ((Json.object tool.extra).Canonical → binder.baseUrl.toList.head? ≠ some '/' →
        binder.bind (binder.bind tool client) client = binder.bind tool client) := by
  intro binder
  refine ⟨Text.inFrontOfSlashes_dropTrailingSlashes base, binder.scopes tool client, ?_⟩
  intro hextra hbase
  rw [bind, bind, binder.bindExtra_bindExtra client hbase hextra]

/-- A tool with a header of its own that the client has too, and a query that is no object. -/
theorem scopes_bind_of_ownHeader :
    let extra : Members := [
      ("headers", .object [("Accept", .string "text"), ("X-Client-Id", .string "other")]),
      ("method", .string "GET"), ("query_params", .null), ("url", .string "/tools/lookup")]
    let tool : Tool := ⟨"custom", "lookup", none, none, some 5, extra⟩
    let client : Client := ⟨"c1", [("Accept", "json"), ("X-Client-Id", "forged")]⟩
    let binder := ofUrl "https://portal.example.com/api//"
    (Json.object extra).Canonical ∧ binder.baseUrl.toList.head? ≠ some '/' ∧
      binder.bind (binder.bind tool client) client = binder.bind tool client := by
  intro extra tool client binder
  have hextra : (Json.object extra).Canonical := by
    rfl
  have hbase : binder.baseUrl.toList.head? ≠ some '/' := by
    decide
  exact ⟨hextra, hbase, (scopes_bind _ tool client).2.2 hextra hbase⟩

end Binder

end CallFlow
