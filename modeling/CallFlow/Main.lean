import CallFlow.CommandLine.Run

/-!
# The program

Gives the command line, the files and the environment to the library, and carries out what it
reports.  Requests to the remote service have no way to travel here, so that a deploy which is not a
dry run ends with a failed write.
-/

namespace CallFlow.Main

open CommandLine

/-- The reason why a file cannot be read, as the operating system words it. -/
def reason : IO.Error → String
  | .noFileOrDirectory _ _ _ => "No such file or directory (os error 2)"
  | error => toString error

/-- Reads a file, or tells why it cannot be read. -/
def readFile (path : String) : IO (Except String String) := do
  try
    return .ok (← IO.FS.readFile path)
  catch error =>
    return .error (reason error)

/-- The variables that a configuration may refer to: its own, and the one that its key names. -/
def variableNames (configText : Option String) : List String :=
  let own := ["VOXFLOW_REMOTE_BASE_URL", DeployConfig.apiKeyVariable,
    "VOXFLOW_INTEGRATION_BASE_URL", "VOXFLOW_DISCOVERY_TIMEOUT_MS", "VOXFLOW_PUSH_TIMEOUT_MS",
    "VOXFLOW_WEBHOOK_TIMEOUT_MS"]
  let named := configText.bind fun text =>
    match DeployConfig.ofText text with
    | .ok config => Environment.reference? config.remote.apiKey
    | .error _ => none
  own ++ named.toList

/-- The values of variables that are set. -/
def readVariables (names : List String) : IO (List (String × String)) :=
  names.filterMapM fun name => do
    return (← IO.getEnv name).map fun value => (name, value)

/-- Requests are not sent. -/
def unsent : Http.Transport Unit :=
  fun _ _ state => (.unanswered, state)

/-- Writes a file if there is one to write, and tells whether it could be written. -/
def write (change : Option FileChange) : IO Bool := do
  match change with
  | some change =>
    try
      IO.FS.writeFile change.path change.text
      return true
    catch _ =>
      return false
  | none => return true

/-- Carries out an order, and gives the exit code. -/
def carryOut (order : Order) : IO UInt32 := do
  let flowText ← readFile order.flowPath
  let configText ← match order.configPath with
    | some path => readFile path
    | none => pure (.error "")
  let named ← readVariables (variableNames configText.toOption)
  let referred ← readVariables ((named.lookup DeployConfig.apiKeyVariable).bind
    Environment.reference?).toList
  let surroundings : Surroundings Unit :=
    { readFile := fun path => if path = order.flowPath then flowText else configText
      env := Environment.ofList (named ++ referred)
      transport := unsent }
  let report := order.run surroundings ()
  for entry in report.entries do
    IO.println entry.line
  let report := report.settled (← write report.change)
  IO.print report.text
  match report.complaint with
  | some complaint => IO.eprintln ("Error: " ++ complaint.message)
  | none => pure ()
  return report.exitCode.toUInt32

end CallFlow.Main

open CallFlow CommandLine in
/-- Runs the program on its arguments. -/
def main (arguments : List String) : IO UInt32 := do
  match Invocation.ofArguments arguments with
  | .order order => Main.carryOut order
  | .version =>
    IO.print versionText
    return 0
  | .help =>
    IO.print usageText
    return 0
  | .unusable =>
    IO.eprint usageText
    return usageExitCode.toUInt32
