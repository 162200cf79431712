import CallFlow.Script.Step
import CallFlow.Text.Lines
import CallFlow.Text.Natural

/-!
# Compiling nodes to a script

The script of a flow is a list of lines: a heading, one step per node in list order, and the closing
guidelines.  Nodes are numbered from one in list order; links between them are not followed.  Next
to the lines a script holds the providers whose tools its steps mention, in order of first mention.
-/

namespace CallFlow

/-- A compiled flow. -/
structure Script where
  lines : List String
  providers : ProviderSet

namespace Script

/-- The lines in front of the steps. -/
def heading : List String :=
  ["## Conversation Flow", "Follow these steps in order:", ""]

/-- The guidelines that every script ends with. -/
def guidelines : List String :=
  ["Keep your responses concise and conversational.",
    "If the caller goes off-script, answer briefly and gently guide them back to the current step.",
    "Be empathetic and patient, especially when the caller is frustrated or confused.",
    "If the caller asks to speak with a human, offer to connect them with a team member.",
    "Whenever you use a tool, let the caller know you're working on it."]

/-- The lines behind the steps. -/
def ending : List String :=
  "" :: "## Guidelines" :: guidelines.map ("- " ++ ·)

/-- The steps of nodes, each with the name of its own tool. -/
def steps (nodes : List Node) : List Step :=
  List.zipWith (fun node tool => Step.ofKind node.kind tool) nodes (ToolName.dynamic nodes)

/-- The lines of steps numbered from `position` on. -/
def stepLines (position : Nat) : List Step → List String
  | [] => []
  | step :: steps => step.lines position ++ stepLines (position + 1) steps

/-- Compiles nodes; no nodes give no script. -/
def compile (nodes : List Node) : Script :=
  if nodes.isEmpty then ⟨[], .empty⟩
  else
    ⟨heading ++ stepLines 1 (steps nodes) ++ ending,
      .ofList ((steps nodes).filterMap Step.provider)⟩

/-- The text of a script. -/
def text (script : Script) : String :=
  "\n".intercalate script.lines

/-- Reads a numbered line: a number, a period and a space, and the rest. -/
def numberedLine (line : String) : Option (Nat × String) :=
  match Text.cutAtPeriod line.toList with
  | some (number, rest) => (Text.readNatural number).map (·, String.ofList rest)
  | none => none

/-- The numbered lines of a text. -/
def numberedLines (text : String) : List (Nat × String) :=
  (Text.lines text).filterMap numberedLine

end Script

end CallFlow
