import CallFlow.Script.Provider
import CallFlow.Script.ToolName

/-!
# Steps of a script

A node is compiled to one step: a sentence of instruction, notes below it, and the provider whose
tools it needs.  Author texts enter a step on one line.  In a script a step is one numbered line,
followed by one indented line per note.
-/

namespace CallFlow

/-- The compiled form of a node. -/
structure Step where
  text : String
  notes : List String
  provider : Option Provider
  deriving DecidableEq

namespace Step

/-- An author text between double quotes, on one line. -/
def quote (text : String) : String :=
  "\"" ++ Text.singleLine text ++ "\""

/-- A step of one sentence. -/
def plain (text : String) : Step :=
  ⟨text, [], none⟩

/-- What the agent says before a step, if the author wrote it. -/
def leadIn (text : Option String) : List String :=
  match Text.nonBlank text with
  | some text => ["Before you start, say: " ++ quote text]
  | none => []

/-- The note of an answer that a question offers. -/
def choiceNote (choice : Choice) : String :=
  "If the caller answers " ++ quote choice.label ++ ", acknowledge their choice and continue."

/-- The notes of a question. -/
def choiceNotes (choices : List Choice) : List String :=
  if choices.isEmpty then ["Listen to the caller's answer, then continue."]
  else choices.map choiceNote

/-- What a transfer tells the caller. -/
def announcement (text : Option String) : String :=
  match Text.nonBlank text with
  | some text => "say " ++ quote text
  | none => "let the caller know you are connecting them"

/-- The step of a node, given the name of the node's own tool. -/
def ofKind (kind : NodeKind) (toolName : Option String) : Step :=
  match kind with
  | .message text =>
    match Text.nonBlank text with
    | some text => plain ("Say: " ++ quote text)
    | none => plain "Share a brief, relevant message with the caller."
  | .question text choices =>
    let sentence :=
      match Text.nonBlank text with
      | some text => "Ask: " ++ quote text
      | none => "Ask the caller a relevant question."
    ⟨sentence, choiceNotes choices, none⟩
  | .condition condition _ _ =>
    let tested :=
      match Text.nonBlank condition with
      | some condition => Text.singleLine condition
      | none => "whether the caller's situation matches what this step expects"
    ⟨"Determine: " ++ tested,
      ["If yes, continue with the next step.",
        "If no, acknowledge it and adapt the conversation before continuing."],
      none⟩
  | .transfer _ text =>
    match toolName with
    | some tool =>
      plain ("Transfer the call: " ++ announcement text ++ ", then use the " ++ tool ++
        " tool to transfer them.")
    | none => plain "If the caller needs further help, offer to transfer them to a team member."
  | .closing text =>
    match Text.nonBlank text with
    | some text => plain ("End the call: " ++ quote text)
    | none => plain "Thank the caller for their time and end the call politely."
  | .checkAvailability provider text =>
    let provider := provider.getD .calcom
    ⟨"Check availability: use the " ++ ToolName.scheduling provider .checkAvailability ++
        " tool to find open time slots, then share the available options with the caller.",
      leadIn text, some (.ofScheduling provider)⟩
  | .bookAppointment provider text =>
    let provider := provider.getD .calcom
    ⟨"Book the appointment: confirm the caller's name, email, and preferred time, use the " ++
        ToolName.scheduling provider .bookAppointment ++
        " tool to book it, then read the confirmed details back to the caller.",
      leadIn text, some (.ofScheduling provider)⟩
  | .crmLookup text =>
    ⟨"Look up the caller: use the " ++ ToolName.crmLookup ++
        " tool with the caller's phone number.",
      leadIn text ++
        ["If a record is found, greet them by name and reference their history with the business.",
          "If no record is found, treat them as a new contact and welcome them warmly."],
      some .crm⟩
  | .webhook _ _ =>
    match toolName with
    | some tool =>
      plain ("Collect the caller's name, phone number, email, and any notes, then use the " ++
        tool ++ " tool to submit them.")
    | none =>
      plain "Collect the caller's name, phone number, email, and any notes about their request."

/-- The line of a note. -/
def noteLine (note : String) : String :=
  "   - " ++ note

/-- The lines of a step at a position. -/
def lines (position : Nat) (step : Step) : List String :=
  (toString position ++ ". " ++ step.text) :: step.notes.map noteLine

end Step

end CallFlow
