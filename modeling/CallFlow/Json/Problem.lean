import CallFlow.Json.Malformed
import CallFlow.Json.NumberText
import CallFlow.Text.Quoted

/-!
# Reading problems

Why a document is not a value of the type that was asked for, and the message of each problem.
-/

namespace CallFlow.Json

/-- What was found where something else was due. -/
inductive Found where
  | null
  | bool (b : Bool)
  | number (n : JsonNumber)
  | string (s : String)
  | array
  | object
  deriving DecidableEq

/-- The description of what was found. -/
def Found.text : Found → String
  | .null => "null"
  | .bool true => "boolean `true`"
  | .bool false => "boolean `false`"
  | .number (.float bits) => "floating point `" ++ floatText bits ++ "`"
  | .number n => "integer `" ++ numberText n ++ "`"
  | .string s => "string " ++ Text.quoted s
  | .array => "sequence"
  | .object => "map"

/-- A problem met while reading a document. -/
inductive Problem where
  | malformed (why : Malformed)
  | missingField (name : String)
  | duplicateField (name : String)
  | unknownVariant (name : String) (known : List String)
  | invalidType (found : Found) (expected : String)
  | invalidValue (found : Found) (expected : String)
  | invalidLength (length : Nat) (expected : String)
  deriving DecidableEq

/-- A name between backticks. -/
def backticked (name : String) : String :=
  "`" ++ name ++ "`"

/-- The names that would have been understood. -/
def expectedNames : List String → String
  | [name] => backticked name
  | [first, second] => backticked first ++ " or " ++ backticked second
  | names => "one of " ++ ", ".intercalate (names.map backticked)

/-- The message of a problem. -/
def Problem.message : Problem → String
  | .malformed why => why.message
  | .missingField name => "missing field " ++ backticked name
  | .duplicateField name => "duplicate field " ++ backticked name
  | .unknownVariant name known =>
    "unknown variant " ++ backticked name ++ ", expected " ++ expectedNames known
  | .invalidType found expected => "invalid type: " ++ found.text ++ ", expected " ++ expected
  | .invalidValue found expected => "invalid value: " ++ found.text ++ ", expected " ++ expected
  | .invalidLength length expected =>
    "invalid length " ++ toString length ++ ", expected " ++ expected

end CallFlow.Json
