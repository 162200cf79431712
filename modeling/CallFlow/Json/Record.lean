import CallFlow.Json.Decode

/-!
# Records

A record is described by its fields in order.  Reading it from an object fills one slot per field,
member by member in the order of the text; a repeated field is a problem where it repeats, a missing
one when the object has ended.  A record may also be written as an array of its fields in order.  An
open record keeps the members that no field asks for; any other record passes over them.
-/

namespace CallFlow.Json

/-- A field of a record. -/
structure Field (β : Type) where
  key : String
  read : Decoder β
  /-- The value when the field is missing; `none` for a field that is required. -/
  absent : Option β

/-- A field that must be present. -/
def Field.required {β : Type} (key : String) (read : Decoder β) : Field β :=
  ⟨key, read, none⟩

/-- A field with a value of its own when it is missing. -/
def Field.withDefault {β : Type} (key : String) (read : Decoder β) (absent : β) : Field β :=
  ⟨key, read, some absent⟩

/-- A field that may be missing or `null`. -/
def Field.optional {β : Type} (key : String) (read : Decoder β) : Field (Option β) :=
  ⟨key, read.nullable, some none⟩

/-- The fields of a record in order, indexed by their types. -/
inductive Fields : List Type → Type 1 where
  | nil : Fields []
  | cons {β : Type} {βs : List Type} (first : Field β) (rest : Fields βs) : Fields (β :: βs)

/-- One value per field. -/
abbrev Values : List Type → Type
  | [] => Unit
  | β :: βs => β × Values βs

/-- What was read so far, per field. -/
abbrev Slots : List Type → Type
  | [] => Unit
  | β :: βs => Option β × Slots βs

namespace Fields

/-- The number of fields. -/
def count {βs : List Type} : Fields βs → Nat
  | .nil => 0
  | .cons _ rest => rest.count + 1

/-- Slots of which none is filled. -/
def emptySlots {βs : List Type} : Fields βs → Slots βs
  | .nil => ()
  | .cons _ rest => (none, rest.emptySlots)

/-- Reads a member into the slot of its key; `none` when no field has the key. -/
def offer (site : Site) (key : String) (document : Document) {βs : List Type} :
    Fields βs → Slots βs → Option (Except Problem (Slots βs))
  | .nil, _ => none
  | .cons field rest, (slot, slots) =>
    if key = field.key then
      match slot with
      | some _ => some (.error (.duplicateField key))
      | none => some ((field.read site document).map fun value => (some value, slots))
    else
      (rest.offer site key document slots).map fun result => result.map fun slots => (slot, slots)

/-- What becomes of a member that no field asks for. -/
abbrev Other := Site → Document → Except Problem (Option Json)

/-- Passes over a member. -/
def passOver : Other := fun _ document => (Decoder.skip document).map fun () => none

/-- Keeps a member. -/
def keep : Other := fun site document => (Decoder.any site document).map some

/-- Reads the members of an object in turn into the slots; a member that no field asks for is given
to `other` and, if it is kept, joins the extra members. -/
def gather (other : Other) (site : Site) {βs : List Type} (fields : Fields βs) :
    List (Document.Key × Document) → Slots βs → Members → Except Problem (Slots βs × Members)
  | [], slots, extra => .ok (slots, extra)
  | (.error why, _) :: _, _, _ => .error (.malformed why)
  | (.ok key, document) :: members, slots, extra =>
    match fields.offer site key document slots with
    | some (.error problem) => .error problem
    | some (.ok slots) => gather other site fields members slots extra
    | none =>
      match other site document with
      | .error problem => .error problem
      | .ok none => gather other site fields members slots extra
      | .ok (some value) => gather other site fields members slots (extra.insert key value)

/-- The values of the slots; the first required field that is missing is the problem. -/
def values {βs : List Type} : Fields βs → Slots βs → Except Problem (Values βs)
  | .nil, _ => .ok ()
  | .cons field rest, (slot, slots) =>
    match slot.or field.absent with
    | none => .error (.missingField field.key)
    | some value => (rest.values slots).map (value, ·)

/-- A number of elements in words. -/
def elements (n : Nat) : String :=
  if n = 1 then "1 element" else toString n ++ " elements"

/-- The problem of an array with more elements than the record has fields. -/
def surplus (source : Source) (total fields : Nat) : Problem :=
  match source with
  | .text => .malformed .trailingCharacters
  | .value => .invalidLength total "fewer elements in array"
  | .buffer => .invalidLength total (elements fields ++ " in sequence")

/-- The problem of an array that breaks off behind the last field. -/
def brokenBehindLast : Malformed → Malformed
  | .expectedCommaOrArrayEnd => .trailingCharacters
  | why => why

/-- Reads the elements of an array in turn, the first `done` fields being read; `total` is the
number of elements, `expected` describes the record. -/
def readElements (site : Site) (expected : String) (total : Nat) (missingEnd : Option Malformed)
    {βs : List Type} : (done : Nat) → Fields βs → List Document → Except Problem (Values βs)
  | _, .nil, [] => Decoder.finish () (missingEnd.map brokenBehindLast)
  | done, .nil, _ :: _ => .error (surplus site.source total done)
  | done, .cons field rest, [] =>
    match missingEnd, field.absent with
    | some why, _ => .error (.malformed why)
    | none, none => .error (.invalidLength done expected)
    | none, some value =>
      (rest.readElements site expected total missingEnd (done + 1) []).map (value, ·)
  | done, .cons field rest, document :: documents =>
    match field.read site document with
    | .error problem => .error problem
    | .ok value =>
      (rest.readElements site expected total missingEnd (done + 1) documents).map (value, ·)

/-- Reads an object; the members that no field asks for are given to `other`. -/
def readObject (other : Other) (site : Site) {βs : List Type} (fields : Fields βs)
    (members : List (Document.Key × Document)) (missingEnd : Option Malformed) :
    Except Problem (Values βs × Members) :=
  match site.enter with
  | .error problem => .error problem
  | .ok site =>
    match fields.gather other site members fields.emptySlots [] with
    | .error problem => .error problem
    | .ok (slots, extra) =>
      match missingEnd with
      | some why => .error (.malformed why)
      | none => (fields.values slots).map (·, extra)

/-- Reads an array. -/
def readArray (site : Site) (name : String) {βs : List Type} (fields : Fields βs)
    (documents : List Document) (missingEnd : Option Malformed) : Except Problem (Values βs) :=
  match site.enter with
  | .error problem => .error problem
  | .ok site =>
    fields.readElements site (name ++ " with " ++ elements fields.count) documents.length missingEnd
      0 documents

end Fields

namespace Decoder

/-- Reads a record from an object or from an array of its fields. -/
def record {α : Type} {βs : List Type} (name : String) (fields : Fields βs) (make : Values βs → α) :
    Decoder α := fun site document =>
  match document with
  | .object members missingEnd =>
    (fields.readObject Fields.passOver site members missingEnd).map fun (values, _) => make values
  | .array documents missingEnd => (fields.readArray site name documents missingEnd).map make
  | document => .error (mismatch name document)

/-- Reads an open record, which is always an object and keeps its other members. -/
def openRecord {α : Type} {βs : List Type} (name : String) (fields : Fields βs)
    (make : Values βs → Members → α) : Decoder α := fun site document =>
  match document with
  | .object members missingEnd =>
    (fields.readObject Fields.keep site members missingEnd).map
      fun (values, extra) => make values extra
  | document => .error (mismatch name document)

/-- Checks the elements of an array that are set aside. -/
def bufferItems (site : Site) (documents : List Document) : Except Problem Unit :=
  (anyItems site documents).map fun _ => ()

/-- Separates the tag of a tagged object from the members that are set aside. -/
def splitTag {β : Type} (tag : String) (readTag : Document → Except Problem β) (site : Site) :
    List (Document.Key × Document) → Option β →
      Except Problem (Option β × List (Document.Key × Document))
  | [], found => .ok (found, [])
  | (.error why, _) :: _, _ => .error (.malformed why)
  | (.ok key, document) :: members, found =>
    if key = tag then
      match found with
      | some _ => .error (.duplicateField tag)
      | none =>
        match readTag document with
        | .error problem => .error problem
        | .ok kind => splitTag tag readTag site members (some kind)
    else
      match any site document with
      | .error problem => .error problem
      | .ok _ =>
        (splitTag tag readTag site members found).map
          fun (found, members) => (found, (.ok key, document) :: members)

/-- Reads a value whose kind is named by the member `tag`, or by the first element of an array.  The
other parts are set aside until the kind is known, and then read by the decoder of that kind. -/
def tagged {α β : Type} (name tag : String) (variants : List (String × β)) (known : List String)
    (content : β → Decoder α) : Decoder α := fun site document =>
  match document with
  | .object members missingEnd =>
    match site.enter with
    | .error problem => .error problem
    | .ok site =>
      match splitTag tag (variantName variants known) site members none with
      | .error problem => .error problem
      | .ok (found, members) =>
        match missingEnd, found with
        | some why, _ => .error (.malformed why)
        | none, none => .error (.missingField tag)
        | none, some kind => content kind ⟨.buffer, site.depth⟩ (.object members none)
  | .array documents missingEnd =>
    match site.enter with
    | .error problem => .error problem
    | .ok site =>
      match documents with
      | [] =>
        match missingEnd with
        | some why => .error (.malformed why)
        | none => .error (.missingField tag)
      | document :: documents =>
        match variantName variants known document with
        | .error problem => .error problem
        | .ok kind =>
          match bufferItems site documents with
          | .error problem => .error problem
          | .ok () =>
            match missingEnd with
            | some why => .error (.malformed why)
            | none => content kind ⟨.buffer, site.depth⟩ (.array documents none)
  | document => .error (mismatch name document)

end Decoder

end CallFlow.Json
