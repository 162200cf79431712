import CallFlow.Http.Remote
import Mathlib.Data.List.TakeWhile

/-!
# The addresses of records

The address of a record is written behind the address of its service.  Reading it resolves the two
together; that the record is found where it was meant to be depends on the characters of its id.  An
id of letters, digits, `-` and `_` is a segment of its own, and nothing in front of it changes.
-/

namespace CallFlow

namespace Text

variable {test : Char → Bool} {c : Char}

theorem takeWhile_append_cons (hc : test c = false) (cs ds : List Char) :
    (cs ++ c :: ds).takeWhile test = cs.takeWhile test := by
  induction cs with
  | nil => simp [hc]
  | cons first cs ih => by_cases h : test first = true <;> simp [h, ih]

theorem dropWhile_append_cons (hc : test c = false) (cs ds : List Char) :
    (cs ++ c :: ds).dropWhile test = cs.dropWhile test ++ c :: ds := by
  induction cs with
  | nil => simp [hc]
  | cons first cs ih => by_cases h : test first = true <;> simp [h, ih]

theorem dropEndWhile_append_cons (hc : test c = false) (cs ds : List Char) :
    dropEndWhile test (cs ++ c :: ds) = cs ++ c :: dropEndWhile test ds := by
  rw [dropEndWhile, List.reverse_append, List.reverse_cons, List.append_assoc,
    List.singleton_append, dropWhile_append_cons hc]
  simp [dropEndWhile]

theorem dropEndWhile_of_forall {cs : List Char} (h : ∀ d ∈ cs, test d = false) :
    dropEndWhile test cs = cs := by
  rcases cs.eq_nil_or_concat with rfl | ⟨front, last, rfl⟩
  · rfl
  · rw [List.concat_eq_append] at h ⊢
    have hlast : test last = false := h last (List.mem_append_right _ (List.mem_singleton_self _))
    exact dropEndWhile_append_cons hlast front []

theorem fields_ne_nil (cs : List Char) : fields test cs ≠ [] := by
  cases cs with
  | nil => nofun
  | cons first cs =>
    rw [fields]
    split
    · nofun
    · split <;> nofun

/-- A separator ends a field. -/
theorem fields_append_cons (hc : test c = true) (cs ds : List Char) :
    fields test (cs ++ c :: ds) = fields test cs ++ fields test ds := by
  induction cs with
  | nil => simp [fields, hc]
  | cons first cs ih =>
    rw [List.cons_append, fields, fields, ih]
    by_cases h : test first = true
    · rw [if_pos h, if_pos h, List.cons_append]
    · rw [if_neg h, if_neg h]
      cases hcs : fields test cs with
      | nil => exact absurd hcs (fields_ne_nil cs)
      | cons field rest => rfl

theorem fields_of_forall {cs : List Char} (h : ∀ d ∈ cs, test d = false) :
    fields test cs = [cs] := by
  induction cs with
  | nil => rfl
  | cons first cs ih =>
    obtain ⟨hfirst, hcs⟩ := List.forall_mem_cons.mp h
    rw [fields, if_neg (by simp [hfirst]), ih hcs]

end Text

namespace Http

open Text

/-! ## Plain characters -/

/-- A character that stands for itself in an address: an ASCII letter or digit, `-`, or `_`. -/
def isPlain (c : Char) : Bool :=
  c.isAlphanum || c == '-' || c == '_'

/-- A character that neither ends a part of an address nor is encoded in its path. -/
def Inert (c : Char) : Prop :=
  Url.isEncodedInPath c = false ∧ c ≠ ':'

theorem range_of_isPlain {c : Char} (h : isPlain c = true) :
    0x20 < c.toNat ∧ c.toNat ≤ 0x7a := by
  have hbetween (low high : Char) (hc : c.val ≥ low.val ∧ c.val ≤ high.val)
      (hlow : 0x20 < low.toNat) (hhigh : high.toNat ≤ 0x7a) :
      0x20 < c.toNat ∧ c.toNat ≤ 0x7a :=
    ⟨Nat.lt_of_lt_of_le hlow hc.1, Nat.le_trans hc.2 hhigh⟩
  rw [isPlain, Char.isAlphanum, Bool.or_eq_true, Bool.or_eq_true, Bool.or_eq_true, beq_iff_eq,
    beq_iff_eq] at h
  rcases h with ((hletter | hdigit) | rfl) | rfl
  · rcases Bool.or_eq_true_iff.mp hletter with hupper | hlower
    · exact hbetween 'A' 'Z' (of_decide_eq_true hupper) (by decide) (by decide)
    · obtain ⟨hge, hle⟩ := Bool.and_eq_true_iff.mp hlower
      exact hbetween 'a' 'z' ⟨of_decide_eq_true hge, of_decide_eq_true hle⟩ (by decide) (by decide)
  · obtain ⟨hge, hle⟩ := Bool.and_eq_true_iff.mp hdigit
    exact hbetween '0' '9' ⟨of_decide_eq_true hge, of_decide_eq_true hle⟩ (by decide) (by decide)
  · decide
  · decide

theorem ne_of_isPlain {c d : Char} (hc : isPlain c = true) (hd : isPlain d = false) : c ≠ d := by
  rintro rfl
  rw [hc] at hd
  cases hd

theorem inert_of_isPlain {c : Char} (h : isPlain c = true) : Inert c := by
  obtain ⟨hlow, hhigh⟩ := range_of_isPlain h
  refine ⟨?_, ne_of_isPlain h (by decide)⟩
  have hascii : Url.isControlOrForeign c = false := by
    simp only [Url.isControlOrForeign, Bool.or_eq_false_iff, decide_eq_false_iff_not]
    omega
  have hother : ∀ d ∈ [' ', '"', '<', '>', '`', '#', '?', '\x7b', '\x7d'], c ≠ d := by
    intro d hd
    have hnone : ([' ', '"', '<', '>', '`', '#', '?', '\x7b', '\x7d'].all fun d => !isPlain d) =
        true := by decide
    have hd' := List.all_eq_true.mp hnone d hd
    exact ne_of_isPlain h (by simpa using hd')
  simpa [Url.isEncodedInPath, hascii] using hother

theorem isSlash_of_isPlain {c : Char} (h : isPlain c = true) : Url.isSlash c = false := by
  have hsolidus : c ≠ '/' := ne_of_isPlain h (by decide)
  have hreverse : c ≠ '\\' := ne_of_isPlain h (by decide)
  simp [Url.isSlash, hsolidus, hreverse]

theorem inert_slash : Inert '/' :=
  ⟨by decide, by decide⟩

section Inert

variable {c : Char}

theorem Inert.ne (h : Inert c) {d : Char} (hd : Url.isEncodedInPath d = true) : c ≠ d := by
  rintro rfl
  rw [h.1] at hd
  cases hd

theorem Inert.low_lt (h : Inert c) : 0x20 < c.toNat := by
  refine Nat.lt_of_not_le fun hle => ?_
  have hspace : c = ' ' ∨ c.toNat < 0x20 := by
    by_cases heq : c.toNat = 0x20
    · exact .inl (Char.toNat_inj.mp heq)
    · exact .inr (by omega)
  rcases hspace with rfl | hlt
  · exact h.ne (by decide) rfl
  · have hencoded : Url.isEncodedInPath c = true := by
      simp [Url.isEncodedInPath, Url.isControlOrForeign, hlt]
    rw [h.1] at hencoded
    cases hencoded

end Inert

/-! ## A path in parts -/

namespace Url

theorem encode_of_inert {cs : List Char} (h : ∀ c ∈ cs, Inert c) :
    encode isEncodedInPath cs = cs := by
  induction cs with
  | nil => rfl
  | cons c cs ih =>
    obtain ⟨hc, hcs⟩ := List.forall_mem_cons.mp h
    have hrest := ih hcs
    rw [encode] at hrest ⊢
    rw [List.flatMap_cons, hrest, if_neg (by simp [hc.1])]
    rfl

/-- A segment that is no run of dots is left where it is. -/
def Stays (segment : List Char) : Prop :=
  isSingleDot segment = false ∧ isDoubleDot segment = false

theorem stays_of_isPlain {segment : List Char} (h : ∀ c ∈ segment, isPlain c = true) :
    Stays segment := by
  have hdots : dots segment = segment := by
    cases segment with
    | nil => rfl
    | cons c cs =>
      have hc := h c List.mem_cons_self
      have hpercent : c ≠ '%' := ne_of_isPlain hc (by decide)
      have hdot : c ≠ '.' := ne_of_isPlain hc (by decide)
      unfold dots
      split
      · next heq => exact absurd (List.cons.inj heq).1 hpercent
      · next heq => exact absurd (List.cons.inj heq).1 hdot
      · rfl
  have hne : ∀ cs, segment ≠ '.' :: cs := by
    rintro cs rfl
    exact absurd (h '.' List.mem_cons_self) (by decide)
  rw [Stays, isSingleDot, isDoubleDot, hdots]
  exact ⟨beq_false_of_ne (hne _), beq_false_of_ne (hne _)⟩

theorem resolve_of_stays {segments : List (List Char)} (h : ∀ segment ∈ segments, Stays segment)
    (resolved : List (List Char)) : resolve resolved segments = resolved ++ segments := by
  induction segments generalizing resolved with
  | nil => rw [resolve, List.append_nil]
  | cons segment rest ih =>
    obtain ⟨hsegment, hrest⟩ := List.forall_mem_cons.mp h
    rw [resolve, if_neg (by simp [hsegment.2]), if_neg (by simp [hsegment.1]), ih hrest,
      List.append_assoc, List.singleton_append]

/-- What the segments in front come to does not depend on those behind them. -/
theorem exists_resolve_append (segments resolved : List (List Char)) :
    ∃ front, ∀ behind, behind ≠ [] →
      resolve resolved (segments ++ behind) = resolve front behind := by
  induction segments generalizing resolved with
  | nil => exact ⟨resolved, fun behind _ => rfl⟩
  | cons segment rest ih =>
    have hending : ∀ behind, behind ≠ [] → (rest ++ behind).isEmpty = false := by
      intro behind hbehind
      simp [hbehind]
    by_cases hdouble : isDoubleDot segment = true
    · obtain ⟨front, hfront⟩ := ih (resolved.dropLast ++ [])
      refine ⟨front, fun behind hbehind => ?_⟩
      rw [List.cons_append, resolve, if_pos hdouble, hending behind hbehind]
      exact hfront behind hbehind
    · by_cases hsingle : isSingleDot segment = true
      · obtain ⟨front, hfront⟩ := ih (resolved ++ [])
        refine ⟨front, fun behind hbehind => ?_⟩
        rw [List.cons_append, resolve, if_neg hdouble, if_pos hsingle, hending behind hbehind]
        exact hfront behind hbehind
      · obtain ⟨front, hfront⟩ := ih (resolved ++ [segment])
        refine ⟨front, fun behind hbehind => ?_⟩
        rw [List.cons_append, resolve, if_neg hdouble, if_neg hsingle]
        exact hfront behind hbehind

/-- A path goes on behind a slash as if nothing stood in front of it. -/
theorem exists_pathOfChars_append (cs : List Char) :
    ∃ front, ∀ ds, pathOfChars (cs ++ '/' :: ds) =
      (resolve front (fields isSlash (encode isEncodedInPath ds))).map String.ofList := by
  cases cs with
  | nil => exact ⟨[], fun ds => rfl⟩
  | cons c cs =>
    obtain ⟨front, hfront⟩ := exists_resolve_append (fields isSlash (encode isEncodedInPath cs)) []
    refine ⟨front, fun ds => ?_⟩
    have hencode : encode isEncodedInPath (cs ++ '/' :: ds) =
        encode isEncodedInPath cs ++ '/' :: encode isEncodedInPath ds := by
      rw [encode, List.flatMap_append, List.flatMap_cons, if_neg (by decide)]
      rfl
    rw [pathOfChars, List.cons_append, List.drop_one, List.tail_cons, hencode,
      fields_append_cons (by decide), hfront _ (fields_ne_nil _)]

/-! ## An address and what stands behind it -/

/-- Whether a character surrounds an address. -/
def isOuter (c : Char) : Bool :=
  c.toNat ≤ 0x20

/-- Whether a character is left out of an address. -/
def isBreak (c : Char) : Bool :=
  c == '\t' || c == '\n' || c == '\r'

/-- What is kept of the text in front of an address of a record. -/
def cleanFront (cs : List Char) : List Char :=
  (cs.dropWhile isOuter).filter fun c => !isBreak c

/-- What is kept of the text at the end of an address. -/
def cleanEnd (cs : List Char) : List Char :=
  (dropEndWhile isOuter cs).filter fun c => !isBreak c

theorem clean_append (cs ds : List Char) :
    clean (cs ++ '/' :: ds) = cleanFront cs ++ '/' :: cleanEnd ds := by
  change (trimWhile isOuter (cs ++ '/' :: ds)).filter (fun c => !isBreak c) = _
  rw [trimWhile, dropWhile_append_cons (by decide), dropEndWhile_append_cons (by decide),
    List.filter_append, List.filter_cons_of_pos (by decide)]
  rfl

theorem isBreak_of_inert {c : Char} (h : Inert c) : isBreak c = false := by
  have htab := h.ne (d := '\t') (by decide)
  have hline := h.ne (d := '\n') (by decide)
  have hreturn := h.ne (d := '\r') (by decide)
  simp [isBreak, htab, hline, hreturn]

theorem filter_isBreak_of_inert {cs : List Char} (h : ∀ c ∈ cs, Inert c) :
    cs.filter (fun c => !isBreak c) = cs := by
  rw [List.filter_eq_self]
  intro c hc
  rw [isBreak_of_inert (h c hc)]
  rfl

theorem cleanEnd_of_inert {cs : List Char} (h : ∀ c ∈ cs, Inert c) : cleanEnd cs = cs := by
  have houter : ∀ c ∈ cs, isOuter c = false := by
    intro c hc
    have hlow := (h c hc).low_lt
    exact decide_eq_false (by omega)
  rw [cleanEnd, dropEndWhile_of_forall houter, filter_isBreak_of_inert h]

/-- Whether a character ends the part of an address that names the server. -/
def endsServer (c : Char) : Bool :=
  isSlash c || c == '?' || c == '#'

/-- The address of what stands behind a server. -/
def located (scheme : Scheme) (host : Host) (service : Option Nat) (rest : List Char) : Url :=
  let resource := rest.takeWhile (· != '#')
  let query := (resource.dropWhile (· != '?')).tail?
  let fragment := (rest.dropWhile (· != '#')).tail?
  { scheme
    host
    service
    path := pathOfChars (resource.takeWhile (· != '?'))
    query := query.map fun cs => String.ofList (encode isEncodedInQuery cs)
    fragment := fragment.map fun cs => String.ofList (encode isEncodedInFragment cs) }

/-- Reads what stands behind the scheme of an address. -/
def ofRest? (scheme : Scheme) (rest : List Char) : Option Url := do
  let server := takeEndWhile (· != '@') (rest.takeWhile fun c => !endsServer c)
  let (hostText, serviceText) := cutHost false server
  let host ← Host.ofChars? hostText
  let service ← readService? scheme serviceText
  return located scheme host service (rest.dropWhile fun c => !endsServer c)

theorem ofText?_eq (text : String) :
    ofText? text = (cutScheme? (clean text.toList)).bind fun (scheme, rest) =>
      ofRest? scheme rest :=
  rfl

theorem ofRest?_nil (scheme : Scheme) : ofRest? scheme [] = none :=
  rfl

theorem tail?_dropWhile_eq_none_iff {c : Char} {cs : List Char} :
    (cs.dropWhile (· != c)).tail? = none ↔ ∀ d ∈ cs, (d != c) = true := by
  rw [← List.dropWhile_eq_nil_iff]
  cases cs.dropWhile (· != c) <;> simp

/-- The scheme that a name in small letters stands for. -/
def Scheme.ofName? (name : List Char) : Option Scheme :=
  if name == "http".toList then some .http
  else if name == "https".toList then some .https
  else none

theorem cutScheme?_eq {name : List Char} (hname : ':' ∉ name) (behind : List Char) :
    cutScheme? (name ++ ':' :: behind) =
      (Scheme.ofName? (name.map Char.toLower)).map fun scheme =>
        (scheme, behind.dropWhile isSlash) := by
  have hall : ∀ c ∈ name, (c != ':') = true := by
    rintro c hc
    have hne : c ≠ ':' := by
      rintro rfl
      exact hname hc
    simp [hne]
  have htake : (name ++ ':' :: behind).takeWhile (· != ':') = name := by
    rw [takeWhile_append_cons (by decide), List.takeWhile_eq_self_iff.mpr hall]
  have hdrop : (name ++ ':' :: behind).dropWhile (· != ':') = ':' :: behind := by
    rw [dropWhile_append_cons (by decide), List.dropWhile_eq_nil_iff.mpr hall, List.nil_append]
  rw [cutScheme?, htake, hdrop, if_neg (by simp), Scheme.ofName?]
  split
  · rfl
  · split <;> rfl

/-- An address that is read with a slash behind it has a server in front of the slash. -/
theorem exists_cutScheme? {front : List Char} {root : Url}
    (h : ((cutScheme? (front ++ ['/'])).bind fun (scheme, rest) => ofRest? scheme rest) =
      some root) :
    ∃ scheme server, ofRest? scheme (server ++ ['/']) = some root ∧
      ∀ ds, cutScheme? (front ++ '/' :: ds) = some (scheme, server ++ '/' :: ds) := by
  obtain ⟨⟨scheme, rest⟩, hcut, hrest⟩ := Option.bind_eq_some_iff.mp h
  have hcolon : ':' ∈ front := by
    by_cases hmem : ':' ∈ front
    · exact hmem
    · rw [cutScheme?, if_pos (by simp [hmem])] at hcut
      cases hcut
  obtain ⟨name, server, rfl, hname⟩ := List.eq_append_cons_of_mem hcolon
  have hsplit (ds : List Char) : cutScheme? ((name ++ ':' :: server) ++ '/' :: ds) =
      (Scheme.ofName? (name.map Char.toLower)).map fun scheme =>
        (scheme, (server ++ '/' :: ds).dropWhile isSlash) := by
    rw [List.append_assoc, List.cons_append, cutScheme?_eq hname]
  rw [hsplit] at hcut
  obtain ⟨found, hfound, hpair⟩ := Option.map_eq_some_iff.mp hcut
  obtain ⟨rfl, rfl⟩ := Prod.mk.inj hpair
  change ofRest? found _ = some root at hrest
  have hserver : server.dropWhile isSlash ≠ [] := by
    intro hnone
    have hslashes : (server ++ ['/']).dropWhile isSlash = [] := by
      rw [List.dropWhile_append, hnone]
      rfl
    rw [hslashes, ofRest?_nil] at hrest
    cases hrest
  have hdrop (ds : List Char) : (server ++ '/' :: ds).dropWhile isSlash =
      server.dropWhile isSlash ++ '/' :: ds := by
    rw [List.dropWhile_append, if_neg (by simpa using hserver)]
  refine ⟨found, server.dropWhile isSlash, ?_, fun ds => ?_⟩
  · rw [← hdrop]
    exact hrest
  · rw [hsplit, hfound, Option.map_some, hdrop]

/-- What names a resource in what stands behind a server: neither the query nor the fragment. -/
def resourceOf (cs : List Char) : List Char :=
  (cs.takeWhile (· != '#')).takeWhile (· != '?')

/-- The address of what stands behind a slash below a path that was read so far. -/
def continued (root : Url) (front : List (List Char)) (ds : List Char) : Url :=
  { located root.scheme root.host root.service ('/' :: ds) with
    path := (resolve front (fields isSlash (encode isEncodedInPath (resourceOf ds)))).map
      String.ofList }

theorem continued_of_forall {root : Url} (hquery : root.query = none)
    (hfragment : root.fragment = none) (front : List (List Char)) {ds : List Char}
    (hds : ∀ d ∈ ds, d ≠ '?' ∧ d ≠ '#') :
    continued root front ds = { root with
      path := (resolve front (fields isSlash (encode isEncodedInPath ds))).map String.ofList } := by
  have hnumber : ∀ d ∈ '/' :: ds, (d != '#') = true :=
    List.forall_mem_cons.mpr ⟨by decide, fun d hd => bne_iff_ne.mpr (hds d hd).2⟩
  have hmark : ∀ d ∈ '/' :: ds, (d != '?') = true :=
    List.forall_mem_cons.mpr ⟨by decide, fun d hd => bne_iff_ne.mpr (hds d hd).1⟩
  have hresource : resourceOf ds = ds := by
    rw [resourceOf, List.takeWhile_eq_self_iff.mpr (List.forall_mem_cons.mp hnumber).2,
      List.takeWhile_eq_self_iff.mpr (List.forall_mem_cons.mp hmark).2]
  rw [continued, hresource, located, List.takeWhile_eq_self_iff.mpr hnumber,
    tail?_dropWhile_eq_none_iff.mpr hnumber, tail?_dropWhile_eq_none_iff.mpr hmark, hquery,
    hfragment]
  rfl

theorem continued_of_inert {root : Url} (hquery : root.query = none)
    (hfragment : root.fragment = none) (front : List (List Char)) {ds : List Char}
    (hds : ∀ d ∈ ds, Inert d) :
    continued root front ds =
      { root with path := (resolve front (fields isSlash ds)).map String.ofList } := by
  rw [continued_of_forall hquery hfragment front fun d hd =>
    ⟨(hds d hd).ne (by decide), (hds d hd).ne (by decide)⟩, encode_of_inert hds]

/-- Without a query and a fragment, what stands behind a server is a path, and goes on as one. -/
theorem exists_located {scheme : Scheme} {host : Host} {service : Option Nat} {cs : List Char}
    (hquery : (located scheme host service (cs ++ ['/'])).query = none)
    (hfragment : (located scheme host service (cs ++ ['/'])).fragment = none) :
    ∃ front, ∀ ds, located scheme host service (cs ++ '/' :: ds) =
      continued (located scheme host service (cs ++ ['/'])) front ds := by
  have hnumber : ∀ d ∈ cs ++ ['/'], (d != '#') = true :=
    tail?_dropWhile_eq_none_iff.mp (Option.map_eq_none_iff.mp hfragment)
  have hmark : ∀ d ∈ cs ++ ['/'], (d != '?') = true := by
    rw [located, List.takeWhile_eq_self_iff.mpr hnumber] at hquery
    exact tail?_dropWhile_eq_none_iff.mp (Option.map_eq_none_iff.mp hquery)
  replace hnumber : ∀ d ∈ cs, (d != '#') = true := fun d hd =>
    hnumber d (List.mem_append_left _ hd)
  replace hmark : ∀ d ∈ cs, (d != '?') = true := fun d hd => hmark d (List.mem_append_left _ hd)
  obtain ⟨front, hfront⟩ := exists_pathOfChars_append cs
  refine ⟨front, fun ds => ?_⟩
  have hresource : ((cs ++ '/' :: ds).takeWhile (· != '#')) =
      cs ++ ('/' :: ds).takeWhile (· != '#') := List.takeWhile_append_of_pos hnumber
  have hpath : ((cs ++ '/' :: ds).takeWhile (· != '#')).takeWhile (· != '?') =
      cs ++ '/' :: resourceOf ds := by
    rw [hresource, List.takeWhile_append_of_pos hmark]
    rfl
  rw [continued, ← hfront, ← hpath]
  simp only [located, hresource, List.dropWhile_append_of_pos hmark,
    List.dropWhile_append_of_pos hnumber]

/-- Behind its server an address goes on with a path of its own. -/
theorem exists_ofRest? {scheme : Scheme} {server : List Char} {root : Url}
    (h : ofRest? scheme (server ++ ['/']) = some root) (hquery : root.query = none)
    (hfragment : root.fragment = none) :
    ∃ front, ∀ ds, ofRest? scheme (server ++ '/' :: ds) = some (root.continued front ds) := by
  have hserver (ds : List Char) : (server ++ '/' :: ds).takeWhile (fun c => !endsServer c) =
      server.takeWhile fun c => !endsServer c :=
    takeWhile_append_cons (by decide) server ds
  have hbehind (ds : List Char) : (server ++ '/' :: ds).dropWhile (fun c => !endsServer c) =
      (server.dropWhile fun c => !endsServer c) ++ '/' :: ds :=
    dropWhile_append_cons (by decide) server ds
  simp only [ofRest?, hserver, hbehind] at h ⊢
  obtain ⟨host, hhost, h⟩ := Option.bind_eq_some_iff.mp h
  obtain ⟨service, hservice, h⟩ := Option.bind_eq_some_iff.mp h
  obtain rfl := Option.some.inj h
  obtain ⟨front, hfront⟩ := exists_located hquery hfragment
  refine ⟨front, fun ds => ?_⟩
  rw [hhost, hservice]
  simp only [Option.bind_eq_bind, Option.bind_some, Option.pure_def, hfront ds]

/-- What is written behind an address without a query and a fragment goes on from a path that does
not depend on it. -/
theorem exists_ofText?_append {text : String} {root : Url} (h : ofText? (text ++ "/") = some root)
    (hquery : root.query = none) (hfragment : root.fragment = none) :
    ∃ front, ∀ ds, ofText? (text ++ String.ofList ('/' :: ds)) =
      some (root.continued front (cleanEnd ds)) := by
  have hclean (ds : List Char) :
      clean (text ++ String.ofList ('/' :: ds)).toList =
        cleanFront text.toList ++ '/' :: cleanEnd ds := by
    rw [String.toList_append, String.toList_ofList, clean_append]
  have hslash : text ++ "/" = text ++ String.ofList ['/'] := rfl
  rw [hslash, ofText?_eq, hclean] at h
  obtain ⟨scheme, server, hserver, hcut⟩ := exists_cutScheme? h
  obtain ⟨front, hfront⟩ := exists_ofRest? hserver hquery hfragment
  refine ⟨front, fun ds => ?_⟩
  rw [ofText?_eq, hclean, hcut]
  exact hfront _

/-! ## The addresses of records -/

/-- The address with other segments in the place of its last one. -/
def below (root : Url) (segments : List String) : Url :=
  { root with path := root.path.dropLast ++ segments }

theorem text_below {root : Url} {front : List String} (hpath : root.path = front ++ [""])
    (hquery : root.query = none) (hfragment : root.fragment = none) (kind id : String) :
    (root.below [kind, id]).text = root.text ++ (kind ++ "/" ++ id) := by
  have hbelow : (root.below [kind, id]).pathText = root.pathText ++ (kind ++ "/" ++ id) := by
    simp [pathText, below, hpath, String.append_assoc]
  simp only [text, target, hbelow, show (root.below [kind, id]).query = root.query from rfl,
    show (root.below [kind, id]).fragment = root.fragment from rfl, hquery, hfragment]
  simp [below, String.append_assoc]

/-- An id that stands for itself at the end of an address, and leaves the address short enough. -/
structure Names (root : Url) (id : String) : Prop where
  plain : ∀ c ∈ id.toList, isPlain c = true
  short : root.text.length + "agents/".length + id.length ≤ longestText

end Url

namespace Remote

/-- A service that requests can be sent to: with a slash behind it, its address is read as `root`,
and names a host and a path only. -/
structure Reaches (remote : Remote) (root : Url) : Prop where
  address : Url.ofText? (remote.baseUrl ++ "/") = some root
  query : root.query = none
  fragment : root.fragment = none
  host : root.host.text.toList.any Url.isUnsendable = false
  key : isHeaderValue ("Bearer " ++ remote.apiKey) = true

/-- The path of a record below the root of its service. -/
def segments : Binding → List String
  | .inline agentId => ["agents", agentId]
  | .llmBound llmId => ["llms", llmId]

/-- The record that a call is about. -/
def record : Call → Binding
  | .fetchAgent agentId => .inline agentId
  | .fetchLlm llmId => .llmBound llmId
  | .write target _ => target

variable {remote : Remote} {root : Url}

/-- The kind and the id of the record that a call is about are the last segments of its address. -/
theorem exists_segments (call : Call) :
    ∃ kind, (kind = "agents" ∨ kind = "llms") ∧ segments (record call) = [kind, call.recordId] ∧
      recordPath call = "/" ++ (kind ++ "/" ++ call.recordId) := by
  have hagent (agentId : String) : "/agents/" ++ agentId = "/" ++ ("agents" ++ "/" ++ agentId) := by
    apply String.toList_inj.mp
    simp
  have hllm (llmId : String) : "/llms/" ++ llmId = "/" ++ ("llms" ++ "/" ++ llmId) := by
    apply String.toList_inj.mp
    simp
  cases call with
  | fetchAgent agentId => exact ⟨"agents", .inl rfl, rfl, hagent agentId⟩
  | fetchLlm llmId => exact ⟨"llms", .inr rfl, rfl, hllm llmId⟩
  | write target patch =>
    cases target with
    | llmBound llmId => exact ⟨"llms", .inr rfl, rfl, hllm llmId⟩
    | inline agentId => exact ⟨"agents", .inl rfl, rfl, hagent agentId⟩

/-- With a slash behind it, the address of a service is read as `root`, without a query and a
fragment. -/
structure StandsAt (remote : Remote) (root : Url) : Prop where
  address : Url.ofText? (remote.baseUrl ++ "/") = some root
  query : root.query = none
  fragment : root.fragment = none

theorem Reaches.standsAt (h : remote.Reaches root) : remote.StandsAt root :=
  ⟨h.address, h.query, h.fragment⟩

/-- What a service has below its root is found behind the path of the root. -/
theorem StandsAt.exists_front (h : remote.StandsAt root) :
    ∃ front : List (List Char), root.path = front.map String.ofList ++ [""] ∧
      ∀ ds, Url.ofText? (remote.baseUrl ++ String.ofList ('/' :: ds)) =
        some (root.continued front (Url.cleanEnd ds)) := by
  obtain ⟨front, hfront⟩ := Url.exists_ofText?_append h.address h.query h.fragment
  refine ⟨front, ?_, hfront⟩
  have hstays : ∀ segment ∈ [([] : List Char)], Url.Stays segment :=
    List.forall_mem_singleton.mpr ⟨rfl, rfl⟩
  have hroot := hfront []
  rw [show String.ofList ['/'] = "/" from rfl, h.address,
    Url.cleanEnd_of_inert (List.forall_mem_nil _), Url.continued_of_inert h.query
      h.fragment front (List.forall_mem_nil _),
    show fields Url.isSlash [] = [[]] from rfl, Url.resolve_of_stays hstays] at hroot
  have hpath := congrArg Url.path (Option.some.inj hroot)
  rw [hpath, List.map_append]
  rfl

/-- Below its root, a service has the path of a plain kind and a plain id as it is. -/
theorem Reaches.below (h : remote.Reaches root) {kind id : String}
    (hkind : ∀ c ∈ kind.toList, isPlain c = true) (hid : ∀ c ∈ id.toList, isPlain c = true) :
    Url.ofText? (remote.baseUrl ++ ("/" ++ (kind ++ "/" ++ id))) = some (root.below [kind, id]) ∧
      (root.below [kind, id]).text = root.text ++ (kind ++ "/" ++ id) := by
  obtain ⟨front, hpath, hfront⟩ := h.standsAt.exists_front
  refine ⟨?_, Url.text_below hpath h.query h.fragment kind id⟩
  have htext : "/" ++ (kind ++ "/" ++ id) =
      String.ofList ('/' :: (kind.toList ++ '/' :: id.toList)) := by
    apply String.toList_inj.mp
    simp
  have hinert : ∀ c ∈ kind.toList ++ '/' :: id.toList, Inert c := by
    rw [List.forall_mem_append, List.forall_mem_cons]
    exact ⟨fun c hc => inert_of_isPlain (hkind c hc), inert_slash,
      fun c hc => inert_of_isPlain (hid c hc)⟩
  have hstays : ∀ segment ∈ [kind.toList, id.toList], Url.Stays segment := by
    simp only [List.forall_mem_cons]
    exact ⟨Url.stays_of_isPlain hkind, Url.stays_of_isPlain hid, List.forall_mem_nil _⟩
  rw [htext, hfront, Url.cleanEnd_of_inert hinert,
    Url.continued_of_inert h.query h.fragment front hinert, fields_append_cons (by decide),
    fields_of_forall fun c hc => isSlash_of_isPlain (hkind c hc),
    fields_of_forall fun c hc => isSlash_of_isPlain (hid c hc), List.singleton_append,
    Url.resolve_of_stays hstays, Url.below, hpath, List.dropLast_concat, List.map_append]
  simp

/-- The request for a record whose id is plain goes to the address of the record. -/
theorem Reaches.request_eq (h : remote.Reaches root) {call : Call}
    (hid : root.Names call.recordId) :
    remote.request call = .ok ⟨method call, root.below (segments (record call)),
      "Bearer " ++ remote.apiKey, requestBody call⟩ := by
  obtain ⟨kind, hkind, hsegments, hpath⟩ := exists_segments call
  have hplain : ∀ c ∈ kind.toList, isPlain c = true := by
    rcases hkind with rfl | rfl
    · exact List.all_eq_true.mp (by decide)
    · exact List.all_eq_true.mp (by decide)
  have hlength : kind.length + "/".length ≤ "agents/".length := by
    rcases hkind with rfl | rfl <;> decide
  obtain ⟨haddress, htext⟩ := h.below hplain hid.plain
  have hsendable : (root.below [kind, call.recordId]).isSendable = true := by
    have hshort := hid.short
    rw [Url.isSendable, htext, Bool.and_eq_true, decide_eq_true_iff, String.length_append,
      String.length_append, String.length_append]
    refine ⟨by omega, ?_⟩
    rw [show (root.below [kind, call.recordId]).host = root.host from rfl, h.host]
    rfl
  rw [request, hpath, haddress, hsegments]
  simp [h.key, hsendable]

end Remote

end Http

end CallFlow
