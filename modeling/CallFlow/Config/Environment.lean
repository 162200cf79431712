import CallFlow.Failure
import CallFlow.Text.Blank
import CallFlow.Text.Natural

/-!
# Environment variables

Settings may come from environment variables, and a secret may name the variable that holds it.
-/

namespace CallFlow

/-- The values of the variables that are set. -/
abbrev Environment := String → Option String

namespace Environment

/-- What stands behind a name and an equals sign in the entry of a variable. -/
def entryValue? (name entry : String) : Option String :=
  let mark := name.toList ++ ['=']
  if mark.isPrefixOf entry.toList then some (String.ofList (entry.toList.drop mark.length))
  else none

/-- The environment in which the listed variables are set.  It is a list of entries, each a name, an
equals sign and a value, and a look-up finds what stands behind the name asked for and an equals
sign.  So a name with an equals sign in it may reach into a value. -/
def ofList (values : List (String × String)) : Environment :=
  fun name => values.findSome? fun (key, value) => entryValue? name (key ++ "=" ++ value)

/-- The value of a variable that must be set. -/
def require (env : Environment) (name : String) : Except Failure String :=
  match env name with
  | some value => .ok value
  | none => .error (.config ("environment variable `" ++ name ++ "` is not set"))

/-- The value of a variable; a blank value counts as none. -/
def nonBlank (env : Environment) (name : String) : Option String :=
  (env name).filter fun value => !Text.blank value

/-- A number of milliseconds, with a default for a variable that is not set. -/
def millis (env : Environment) (name : String) (default : UInt64) : Except Failure UInt64 :=
  match env.nonBlank name with
  | none => .ok default
  | some value =>
    match Text.readNatural (Text.trimChars value.toList) with
    | some n => .ok n.toUInt64
    | none => .error (.config ("`" ++ name ++ "` must be a whole number of milliseconds"))

/-- The name between the marks of a reference to a variable: a dollar sign and an opening brace, and
a closing brace at the end. -/
def reference? (value : String) : Option String :=
  match value.toList with
  | '$' :: '\x7b' :: cs =>
    if cs.getLast? = some '\x7d' then some (String.ofList cs.dropLast) else none
  | _ => none

/-- Resolves a secret: a reference stands for the variable that it names, a blank value for the
variable `fallback`, and any other value for itself. -/
def resolveSecret (env : Environment) (value fallback : String) : Except Failure String :=
  match reference? value with
  | some name => env.require name
  | none => if Text.blank value then env.require fallback else .ok value

/-- Whether detailed logging is asked for. -/
def isDebug (env : Environment) : Bool :=
  (env "VOXFLOW_DEBUG").isSome

end Environment

end CallFlow
