/-!
# JSON values

A JSON value with its numbers as they are kept after reading: whole numbers of 64 bits exactly, all
others as binary floating point numbers.  The members of an object stand in a list.  Records are
written in the order of their fields; a free-form object keeps its keys in order (`Members.insert`),
where the order of texts is the order of their code points.
-/

namespace CallFlow

/-- A JSON number.  Every number has one representation. -/
inductive JsonNumber where
  /-- A whole number from zero up. -/
  | natural (n : UInt64)
  /-- The negative whole number `-(n + 1)`. -/
  | negative (n : Fin 0x8000000000000000)
  /-- A finite floating point number, given by its bits. -/
  | float (bits : UInt64)
  deriving DecidableEq

/-- A JSON value. -/
inductive Json where
  | null
  | bool (b : Bool)
  | number (n : JsonNumber)
  | string (s : String)
  | array (items : List Json)
  | object (members : List (String × Json))

/-- The members of a free-form object: keys in order, each once. -/
abbrev Members := List (String × Json)

namespace Members

/-- The value under a key. -/
def get? (m : Members) (key : String) : Option Json :=
  List.lookup key m

/-- Puts a value under a key, in place of the one that is there. -/
def insert (key : String) (value : Json) : Members → Members
  | [] => [(key, value)]
  | (k, v) :: rest =>
    if key = k then (key, value) :: rest
    else if key < k then (key, value) :: (k, v) :: rest
    else (k, v) :: insert key value rest

/-- Removes a key. -/
def erase (key : String) (m : Members) : Members :=
  m.filter fun (k, _) => k != key

/-- The members of an object written with the given keys in turn: of a repeated key the last value
counts. -/
def ofList (pairs : List (String × Json)) : Members :=
  pairs.foldl (fun m (key, value) => insert key value m) []

end Members

namespace Json

/-- A whole number from zero up. -/
def natural (n : UInt64) : Json :=
  .number (.natural n)

/-- A text, if there is one. -/
def ofText? (s : Option String) : Option Json :=
  s.map .string

/-- The object with the given fields, without those that have no value. -/
def ofFields (fields : List (String × Option Json)) : Json :=
  .object (fields.filterMap fun (key, value) => value.map (key, ·))

/-- The text of a string value. -/
def asString? : Json → Option String
  | .string s => some s
  | _ => none

/-- The members of an object value; any other value counts as an object without members. -/
def membersOrEmpty : Json → Members
  | .object m => m
  | _ => []

end Json

end CallFlow
