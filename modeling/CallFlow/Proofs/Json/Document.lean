import CallFlow.Json.Decode
import CallFlow.Proofs.Json.Token
import CallFlow.Proofs.Json.Value

/-!
# Reading written values back

The text of a value whose numbers are whole is cut into the tokens of the value, and the document
that is built from them is the document of the value.  So to decode what was written, compactly or
laid out, is to decode the value itself.
-/

namespace CallFlow.Json

mutual

/-- The tokens of a value. -/
def tokensOf : Json → List Token
  | .null => [.null]
  | .bool b => [.bool b]
  | .number n => [.number (some n)]
  | .string s => [.string (.ok s)]
  | .array [] => [.arrayStart, .arrayEnd]
  | .array (item :: items) => .arrayStart :: tokensOf item ++ itemTokens items
  | .object [] => [.objectStart, .objectEnd]
  | .object ((key, value) :: members) =>
    .objectStart :: .string (.ok key) :: .colon :: tokensOf value ++ memberTokens members

/-- The tokens of the items behind the first one, and of the end of the array. -/
def itemTokens : List Json → List Token
  | [] => [.arrayEnd]
  | item :: items => .comma :: tokensOf item ++ itemTokens items

/-- The tokens of the members behind the first one, and of the end of the object. -/
def memberTokens : List (String × Json) → List Token
  | [] => [.objectEnd]
  | (key, value) :: members =>
    .comma :: .string (.ok key) :: .colon :: tokensOf value ++ memberTokens members

end

/-! ## From texts to tokens -/

section Compact

/-- The tokens of a value are cut off the front of a text that starts with the compact text of the
value. -/
def CompactlyRead (j : Json) : Prop :=
  ∀ rest, EndsValue rest → tokens (compactChars j ++ rest) = tokensOf j ++ tokens rest

theorem endsValue_compactItems (items : List Json) (rest : List Char) :
    EndsValue (compactItems items ++ rest) := by
  cases items with
  | nil => exact endsValue_cons (by decide) _
  | cons item items => exact endsValue_cons (by decide) _

theorem endsValue_compactMembers (members : List (String × Json)) (rest : List Char) :
    EndsValue (compactMembers members ++ rest) := by
  cases members with
  | nil => exact endsValue_cons (by decide) _
  | cons member members => exact endsValue_cons (by decide) _

theorem tokens_compactItems {items : List Json} (h : ∀ item ∈ items, CompactlyRead item)
    (rest : List Char) :
    tokens (compactItems items ++ rest) = itemTokens items ++ tokens rest := by
  induction items with
  | nil => exact tokens_arrayEnd rest
  | cons item items ih =>
    rw [List.forall_mem_cons] at h
    have hitem := h.1 _ (endsValue_compactItems items rest)
    simp only [compactItems, itemTokens, List.cons_append, List.append_assoc]
    rw [tokens_comma, hitem, ih h.2]

theorem tokens_compactMembers {members : List (String × Json)}
    (h : ∀ member ∈ members, CompactlyRead member.2) (rest : List Char) :
    tokens (compactMembers members ++ rest) = memberTokens members ++ tokens rest := by
  induction members with
  | nil => exact tokens_objectEnd rest
  | cons member members ih =>
    obtain ⟨key, value⟩ := member
    rw [List.forall_mem_cons] at h
    have hvalue := h.1 _ (endsValue_compactMembers members rest)
    simp only [compactMembers, memberTokens, List.cons_append, List.append_assoc]
    rw [tokens_comma, tokens_stringText, tokens_colon, hvalue, ih h.2]

theorem Whole.compactlyRead {j : Json} (h : j.Whole) : j.CompactlyRead := by
  induction h with
  | null => exact fun rest _ => tokens_cons rfl rfl
  | bool b => cases b <;> exact fun rest _ => tokens_cons rfl rfl
  | number h => exact fun rest hrest => tokens_numberText h hrest
  | string s => exact fun rest _ => tokens_stringText s rest
  | @array items _ ih =>
    intro rest _
    cases items with
    | nil =>
      change tokens ('[' :: ']' :: rest) = _
      rw [tokens_arrayStart, tokens_arrayEnd]
      rfl
    | cons item items =>
      rw [List.forall_mem_cons] at ih
      have hitem := ih.1 _ (endsValue_compactItems items rest)
      simp only [compactChars, tokensOf, List.cons_append, List.append_assoc]
      rw [tokens_arrayStart, hitem, tokens_compactItems ih.2]
  | @object members _ ih =>
    intro rest _
    cases members with
    | nil =>
      change tokens ('\x7b' :: '\x7d' :: rest) = _
      rw [tokens_objectStart, tokens_objectEnd]
      rfl
    | cons member members =>
      obtain ⟨key, value⟩ := member
      rw [List.forall_mem_cons] at ih
      have hvalue := ih.1 _ (endsValue_compactMembers members rest)
      simp only [compactChars, tokensOf, List.cons_append, List.append_assoc]
      rw [tokens_objectStart, tokens_stringText, tokens_colon, hvalue,
        tokens_compactMembers ih.2]

end Compact

section Pretty

/-- The tokens of a value are cut off the front of a text that starts with the value laid out at any
level. -/
def PrettilyRead (j : Json) : Prop :=
  ∀ level rest, EndsValue rest → tokens (prettyChars level j ++ rest) = tokensOf j ++ tokens rest

theorem endsValue_prettyItems (level : Nat) (items : List Json) (rest : List Char) :
    EndsValue (prettyItems level items ++ rest) := by
  cases items with
  | nil => exact endsValue_cons (by decide) _
  | cons item items => exact endsValue_cons (by decide) _

theorem endsValue_prettyMembers (level : Nat) (members : List (String × Json))
    (rest : List Char) : EndsValue (prettyMembers level members ++ rest) := by
  cases members with
  | nil => exact endsValue_cons (by decide) _
  | cons member members => exact endsValue_cons (by decide) _

theorem tokens_prettyItems {items : List Json} (h : ∀ item ∈ items, PrettilyRead item)
    (level : Nat) (rest : List Char) :
    tokens (prettyItems level items ++ rest) = itemTokens items ++ tokens rest := by
  induction items with
  | nil =>
    simp only [prettyItems, itemTokens, List.append_assoc, List.singleton_append]
    rw [tokens_newLine, tokens_arrayEnd]
  | cons item items ih =>
    rw [List.forall_mem_cons] at h
    have hitem := h.1 (level + 1) _ (endsValue_prettyItems level items rest)
    simp only [prettyItems, itemTokens, List.cons_append, List.append_assoc]
    rw [tokens_comma, tokens_newLine, hitem, ih h.2]

theorem tokens_prettyMembers {members : List (String × Json)}
    (h : ∀ member ∈ members, PrettilyRead member.2) (level : Nat) (rest : List Char) :
    tokens (prettyMembers level members ++ rest) = memberTokens members ++ tokens rest := by
  induction members with
  | nil =>
    simp only [prettyMembers, memberTokens, List.append_assoc, List.singleton_append]
    rw [tokens_newLine, tokens_objectEnd]
  | cons member members ih =>
    obtain ⟨key, value⟩ := member
    rw [List.forall_mem_cons] at h
    have hvalue := h.1 (level + 1) _ (endsValue_prettyMembers level members rest)
    simp only [prettyMembers, memberTokens, List.cons_append, List.append_assoc]
    rw [tokens_comma, tokens_newLine, tokens_stringText, tokens_colon, tokens_space rfl, hvalue,
      ih h.2]

theorem Whole.prettilyRead {j : Json} (h : j.Whole) : j.PrettilyRead := by
  induction h with
  | null => exact fun level rest _ => tokens_cons rfl rfl
  | bool b => cases b <;> exact fun level rest _ => tokens_cons rfl rfl
  | number h => exact fun level rest hrest => tokens_numberText h hrest
  | string s => exact fun level rest _ => tokens_stringText s rest
  | @array items _ ih =>
    intro level rest _
    cases items with
    | nil =>
      change tokens ('[' :: ']' :: rest) = _
      rw [tokens_arrayStart, tokens_arrayEnd]
      rfl
    | cons item items =>
      rw [List.forall_mem_cons] at ih
      have hitem := ih.1 (level + 1) _ (endsValue_prettyItems level items rest)
      simp only [prettyChars, tokensOf, List.cons_append, List.append_assoc]
      rw [tokens_arrayStart, tokens_newLine, hitem, tokens_prettyItems ih.2]
  | @object members _ ih =>
    intro level rest _
    cases members with
    | nil =>
      change tokens ('\x7b' :: '\x7d' :: rest) = _
      rw [tokens_objectStart, tokens_objectEnd]
      rfl
    | cons member members =>
      obtain ⟨key, value⟩ := member
      rw [List.forall_mem_cons] at ih
      have hvalue := ih.1 (level + 1) _ (endsValue_prettyMembers level members rest)
      simp only [prettyChars, tokensOf, List.cons_append, List.append_assoc]
      rw [tokens_objectStart, tokens_newLine, tokens_stringText, tokens_colon, tokens_space rfl,
        hvalue, tokens_prettyMembers ih.2]

end Pretty

/-! ## From tokens to documents -/

namespace Document

/-- What is built when a step is followed by tokens. -/
def Step.followedBy (tokens : List Token) : Step → Document × Bool
  | .proceed due stack => build due stack tokens
  | .complete document => (document, !tokens.isEmpty)
  | .stop document => (document, false)

theorem build_cons (due : Due) (stack : List Frame) (token : Token) (tokens : List Token) :
    build due stack (token :: tokens) = (step due stack token).followedBy tokens := by
  rw [build]
  cases step due stack token <;> rfl

/-- The states in which a value may come next. -/
def Due.TakesValue (due : Due) : Prop :=
  due = .value ∨ due = .firstItem ∨ due = .nextItem

/-- The tokens of a value are built to the document of the value, wherever a value may come. -/
def Built (j : Json) : Prop :=
  ∀ (due : Due) (stack : List Frame) (tokens : List Token), due.TakesValue →
    build due stack (tokensOf j ++ tokens) = (settle (ofJson j) stack).followedBy tokens

theorem build_valueToken {due : Due} (h : due.TakesValue) (token : Token)
    (htoken : token ≠ .arrayEnd) (stack : List Frame) (tokens : List Token) :
    build due stack (token :: tokens) = (stepValue stack token).followedBy tokens := by
  have hstep : step due stack token = stepValue stack token := by
    rcases h with rfl | rfl | rfl
    · rfl
    · cases token <;> simp_all [step]
    · cases token <;> simp_all [step]
  rw [build_cons, hstep]

theorem build_itemTokens {items : List Json} (h : ∀ item ∈ items, Built item)
    (read : List Document) (stack : List Frame) (tokens : List Token) :
    build .comma (.array read :: stack) (itemTokens items ++ tokens) =
      (settle (.array (read.reverse ++ ofItems items) none) stack).followedBy tokens := by
  induction items generalizing read with
  | nil =>
    rw [ofItems, List.append_nil]
    exact build_cons .comma _ .arrayEnd tokens
  | cons item items ih =>
    rw [List.forall_mem_cons] at h
    simp only [itemTokens, List.cons_append, List.append_assoc]
    rw [build_cons]
    change build .nextItem (.array read :: stack) _ = _
    rw [h.1 .nextItem _ _ (.inr (.inr rfl))]
    change build .comma (.array (ofJson item :: read) :: stack) _ = _
    rw [ih h.2, List.reverse_cons, List.append_assoc]
    rfl

theorem build_memberTokens {members : List (String × Json)}
    (h : ∀ member ∈ members, Built member.2) (read : List (Key × Document))
    (stack : List Frame) (tokens : List Token) :
    build .comma (.object read none :: stack) (memberTokens members ++ tokens) =
      (settle (.object (read.reverse ++ ofMembers members) none) stack).followedBy tokens := by
  induction members generalizing read with
  | nil =>
    rw [ofMembers, List.append_nil]
    exact build_cons .comma _ .objectEnd tokens
  | cons member members ih =>
    obtain ⟨key, value⟩ := member
    rw [List.forall_mem_cons] at h
    simp only [memberTokens, List.cons_append, List.append_assoc]
    rw [build_cons]
    change build .nextKey (.object read none :: stack) _ = _
    rw [build_cons]
    change build .colon (.object read (some (.ok key)) :: stack) _ = _
    rw [build_cons]
    change build .value (.object read (some (.ok key)) :: stack) _ = _
    rw [h.1 .value _ _ (.inl rfl)]
    change build .comma (.object ((.ok key, ofJson value) :: read) none :: stack) _ = _
    rw [ih h.2, List.reverse_cons, List.append_assoc]
    rfl

theorem built (j : Json) : Built j := by
  induction j using inductionOn with
  | null => exact fun due stack tokens hdue => build_valueToken hdue .null nofun stack tokens
  | bool b => exact fun due stack tokens hdue => build_valueToken hdue (.bool b) nofun stack tokens
  | number n => exact fun due stack tokens hdue => build_valueToken hdue (.number (some n)) nofun stack tokens
  | string s => exact fun due stack tokens hdue => build_valueToken hdue (.string (.ok s)) nofun stack tokens
  | array items ih =>
    intro due stack tokens hdue
    cases items with
    | nil =>
      change build due stack (.arrayStart :: .arrayEnd :: tokens) = _
      rw [build_valueToken hdue .arrayStart nofun]
      exact build_cons .firstItem _ .arrayEnd tokens
    | cons item items =>
      rw [List.forall_mem_cons] at ih
      simp only [tokensOf, List.cons_append, List.append_assoc]
      rw [build_valueToken hdue .arrayStart nofun]
      change build .firstItem (.array [] :: stack) _ = _
      rw [ih.1 .firstItem _ _ (.inr (.inl rfl))]
      exact build_itemTokens ih.2 [ofJson item] stack tokens
  | object members ih =>
    intro due stack tokens hdue
    cases members with
    | nil =>
      change build due stack (.objectStart :: .objectEnd :: tokens) = _
      rw [build_valueToken hdue .objectStart nofun]
      exact build_cons .firstKey _ .objectEnd tokens
    | cons member members =>
      obtain ⟨key, value⟩ := member
      rw [List.forall_mem_cons] at ih
      simp only [tokensOf, List.cons_append, List.append_assoc]
      rw [build_valueToken hdue .objectStart nofun]
      change build .firstKey (.object [] none :: stack) _ = _
      rw [build_cons]
      change build .colon (.object [] (some (.ok key)) :: stack) _ = _
      rw [build_cons]
      change build .value (.object [] (some (.ok key)) :: stack) _ = _
      rw [ih.1 .value _ _ (.inl rfl)]
      exact build_memberTokens ih.2 [(.ok key, ofJson value)] stack tokens

theorem ofText_of_tokens {text : String} {j : Json} (h : tokens text.toList = tokensOf j) :
    ofText text = (ofJson j, false) := by
  have hbuilt := built j .value [] [] (.inl rfl)
  rw [List.append_nil] at hbuilt
  rw [ofText, h, hbuilt]
  rfl

end Document

namespace Decoder

variable {α : Type}

theorem ofText_of_tokens (read : Decoder α) {text : String} {j : Json}
    (h : tokens text.toList = tokensOf j) :
    ofText read text = read ⟨.text, 0⟩ (Document.ofJson j) := by
  rw [ofText, Document.ofText_of_tokens h]
  simp only
  cases read ⟨.text, 0⟩ (Document.ofJson j) <;> rfl

/-- To decode the compact text of a value is to decode the value. -/
theorem ofText_compact (read : Decoder α) {j : Json} (h : j.Whole) :
    ofText read (compact j) = read ⟨.text, 0⟩ (Document.ofJson j) := by
  apply ofText_of_tokens
  have hread := h.compactlyRead [] endsValue_nil
  rw [List.append_nil, tokens_nil, List.append_nil] at hread
  rwa [compact, String.toList_ofList]

/-- To decode the text of a value laid out over lines is to decode the value. -/
theorem ofText_pretty (read : Decoder α) {j : Json} (h : j.Whole) :
    ofText read (pretty j) = read ⟨.text, 0⟩ (Document.ofJson j) := by
  apply ofText_of_tokens
  have hread := h.prettilyRead 0 [] endsValue_nil
  rw [List.append_nil, tokens_nil, List.append_nil] at hread
  rwa [pretty, String.toList_ofList]

end Decoder

end CallFlow.Json
