import CallFlow.Json.Document
import CallFlow.Json.Problem

/-!
# Decoders

A decoder reads a document as a value of a type and reports the first problem in the order of the
text.  The site of a document says where it came from and how deep it lies: a text may nest
containers only to a fixed depth, while parts that no field asks for may nest to any.
-/

namespace CallFlow.Json

/-- Where a document came from. -/
inductive Source where
  /-- A text that is read in one pass. -/
  | text
  /-- A value that was read before. -/
  | value
  /-- Members that were set aside until their record's kind was known. -/
  | buffer
  deriving DecidableEq

/-- The place of a document: where it came from and how many containers are around it. -/
structure Site where
  source : Source
  depth : Nat
  deriving DecidableEq

/-- The number of nested containers at which a text is refused. -/
def depthLimit : Nat := 128

/-- The site inside a container. -/
def Site.enter (site : Site) : Except Problem Site :=
  if site.source = .text ∧ depthLimit ≤ site.depth + 1 then .error (.malformed .tooDeep)
  else .ok { site with depth := site.depth + 1 }

/-- A reader of documents. -/
abbrev Decoder (α : Type) := Site → Document → Except Problem α

/-- The problem of a document that is not what was expected. -/
def mismatch (expected : String) : Document → Problem
  | .null => .invalidType .null expected
  | .bool b => .invalidType (.bool b) expected
  | .number (some n) => .invalidType (.number n) expected
  | .number none => .malformed .numberOutOfRange
  | .string (.ok s) => .invalidType (.string s) expected
  | .string (.error why) => .malformed why
  | .array _ _ => .invalidType .array expected
  | .object _ _ => .invalidType .object expected
  | .broken why => .malformed why

namespace Decoder

/-- Reads a string. -/
def string : Decoder String := fun _ document =>
  match document with
  | .string (.ok s) => .ok s
  | document => .error (mismatch "a string" document)

/-- Reads a truth value. -/
def bool : Decoder Bool := fun _ document =>
  match document with
  | .bool b => .ok b
  | document => .error (mismatch "a boolean" document)

/-- Reads a whole number of 64 bits without sign. -/
def word : Decoder UInt64 := fun _ document =>
  match document with
  | .number (some (.natural n)) => .ok n
  | .number (some (.negative n)) => .error (.invalidValue (.number (.negative n)) "u64")
  | document => .error (mismatch "u64" document)

/-- Reads `null` as nothing. -/
def nullable {α : Type} (read : Decoder α) : Decoder (Option α) := fun site document =>
  match document with
  | .null => .ok none
  | document => (read site document).map some

/-- Reads the items of an array in turn. -/
def items {α : Type} (read : Decoder α) (site : Site) : List Document → Except Problem (List α)
  | [] => .ok []
  | document :: documents =>
    match read site document with
    | .error problem => .error problem
    | .ok value => (items read site documents).map (value :: ·)

/-- The end of an array or object of which everything else was read. -/
def finish {α : Type} (value : α) : Option Malformed → Except Problem α
  | none => .ok value
  | some why => .error (.malformed why)

/-- Reads an array. -/
def list {α : Type} (read : Decoder α) : Decoder (List α) := fun site document =>
  match document with
  | .array documents missingEnd =>
    match site.enter with
    | .error problem => .error problem
    | .ok site =>
      match items read site documents with
      | .error problem => .error problem
      | .ok values => finish values missingEnd
  | document => .error (mismatch "a sequence" document)

mutual

/-- Reads any value.  The members of an object are kept in order, of a repeated key the last. -/
def any (site : Site) : Document → Except Problem Json
  | .null => .ok .null
  | .bool b => .ok (.bool b)
  | .number (some n) => .ok (.number n)
  | .number none => .error (.malformed .numberOutOfRange)
  | .string (.ok s) => .ok (.string s)
  | .string (.error why) => .error (.malformed why)
  | .array documents missingEnd =>
    match site.enter with
    | .error problem => .error problem
    | .ok site =>
      match anyItems site documents with
      | .error problem => .error problem
      | .ok values => finish (.array values) missingEnd
  | .object members missingEnd =>
    match site.enter with
    | .error problem => .error problem
    | .ok site =>
      match anyMembers site members with
      | .error problem => .error problem
      | .ok pairs => finish (.object (Members.ofList pairs)) missingEnd
  | .broken why => .error (.malformed why)

/-- Reads any items. -/
def anyItems (site : Site) : List Document → Except Problem (List Json)
  | [] => .ok []
  | document :: documents =>
    match any site document with
    | .error problem => .error problem
    | .ok value => (anyItems site documents).map (value :: ·)

/-- Reads any members, in the order of the text. -/
def anyMembers (site : Site) :
    List (Document.Key × Document) → Except Problem (List (String × Json))
  | [] => .ok []
  | (.error why, _) :: _ => .error (.malformed why)
  | (.ok key, document) :: members =>
    match any site document with
    | .error problem => .error problem
    | .ok value => (anyMembers site members).map ((key, value) :: ·)

end

/-- The problem of a part that is passed over and breaks off in an array. -/
def skippedArrayEnd : Malformed → Malformed
  | .trailingComma => .expectedValue
  | why => why

/-- The problem of a part that is passed over and breaks off in an object. -/
def skippedObjectEnd : Malformed → Malformed
  | .trailingComma => .keyNotString
  | why => why

mutual

/-- Passes over a part that no field asks for: it must be JSON, but its numbers may be too large,
its strings may hold half of a surrogate pair, and it may nest to any depth. -/
def skip : Document → Except Problem Unit
  | .null | .bool _ | .number _ | .string _ => .ok ()
  | .array documents missingEnd =>
    match skipItems documents with
    | .error problem => .error problem
    | .ok () => finish () (missingEnd.map skippedArrayEnd)
  | .object members missingEnd =>
    match skipMembers members with
    | .error problem => .error problem
    | .ok () => finish () (missingEnd.map skippedObjectEnd)
  | .broken why => .error (.malformed why)

/-- Passes over items. -/
def skipItems : List Document → Except Problem Unit
  | [] => .ok ()
  | document :: documents =>
    match skip document with
    | .error problem => .error problem
    | .ok () => skipItems documents

/-- Passes over members. -/
def skipMembers : List (Document.Key × Document) → Except Problem Unit
  | [] => .ok ()
  | (_, document) :: members =>
    match skip document with
    | .error problem => .error problem
    | .ok () => skipMembers members

end

/-- Finds the variant of a name. -/
def namedVariant {β : Type} (variants : List (String × β)) (known : List String) (name : String) :
    Except Problem β :=
  match variants.lookup name with
  | some variant => .ok variant
  | none => .error (.unknownVariant name known)

/-- Reads the name of a variant. -/
def variantName {β : Type} (variants : List (String × β)) (known : List String) :
    Document → Except Problem β
  | .string (.ok name) => namedVariant variants known name
  | document => .error (mismatch "variant identifier" document)

/-- Reads the content of a variant that has none. -/
def unit : Document → Except Problem Unit
  | .null => .ok ()
  | document => .error (mismatch "unit" document)

/-- Reads a variant without content in a text: its name, or an object with the name as its only key
and `null` under it. -/
def variantOfText {β : Type} (variants : List (String × β)) (known : List String) : Decoder β :=
  fun site document =>
    match document with
    | .string (.ok name) => namedVariant variants known name
    | .string (.error why) => .error (.malformed why)
    | .object members missingEnd =>
      match site.enter with
      | .error problem => .error problem
      | .ok _ =>
        match members with
        | [] => .error (.malformed (missingEnd.getD .keyNotString))
        | (.error why, _) :: _ => .error (.malformed why)
        | (.ok name, document) :: others =>
          match namedVariant variants known name with
          | .error problem => .error problem
          | .ok variant =>
            match unit document with
            | .error problem => .error problem
            | .ok () =>
              match others, missingEnd with
              | [], none => .ok variant
              | [], some .endInObject => .error (.malformed .endInObject)
              | _, _ => .error (.malformed .expectedValue)
    | .broken why => .error (.malformed why)
    | _ => .error (.malformed .expectedValue)

/-- Reads a variant without content in a value that was read before. -/
def variantOfValue {β : Type} (variants : List (String × β)) (known : List String) : Decoder β :=
  fun _ document =>
    match document with
    | .string (.ok name) => namedVariant variants known name
    | .object [(.ok name, document)] none =>
      match namedVariant variants known name with
      | .error problem => .error problem
      | .ok variant => (unit document).map fun () => variant
    | .object _ _ => .error (.invalidValue .object "map with a single key")
    | document => .error (mismatch "string or map" document)

/-- Reads a variant without content.  `known` lists the names that a message shows. -/
def variant {β : Type} (variants : List (String × β)) (known : List String) : Decoder β :=
  fun site document =>
    if site.source = .text then variantOfText variants known site document
    else variantOfValue variants known site document

/-- Reads a whole text. -/
def ofText {α : Type} (read : Decoder α) (text : String) : Except Problem α :=
  let (document, more) := Document.ofText text
  match read ⟨.text, 0⟩ document with
  | .error problem => .error problem
  | .ok value => if more then .error (.malformed .trailingCharacters) else .ok value

/-- Reads a value that was read before. -/
def ofJson {α : Type} (read : Decoder α) (value : Json) : Except Problem α :=
  read ⟨.value, 0⟩ (Document.ofJson value)

end Decoder

end CallFlow.Json
