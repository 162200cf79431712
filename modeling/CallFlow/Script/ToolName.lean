import CallFlow.Flow.Node

/-!
# Tool names

A script refers to tools by name.  The tools of calendars and of the customer records have fixed
names.  Every webhook with an address and every transfer with a number gets a tool of its own, named
after its kind and its place among the tools of that kind.
-/

namespace CallFlow

/-- What a scheduling node does with a calendar. -/
inductive SchedulingAction where
  | checkAvailability
  | bookAppointment
  deriving DecidableEq

namespace ToolName

/-- The tool that looks a caller up in the customer records. -/
def crmLookup : String := "lookup_crm_contact"

/-- The tool that acts on a calendar. -/
def scheduling : SchedulingProvider → SchedulingAction → String
  | .calcom, .checkAvailability => "check_availability_calcom"
  | .calcom, .bookAppointment => "book_appointment_calcom"
  | .googleCalendar, .checkAvailability => "check_calendar_availability"
  | .googleCalendar, .bookAppointment => "book_calendar_appointment"

/-- The tool of the webhook with the given number. -/
def webhook (n : Nat) : String :=
  "flow_webhook_" ++ toString n

/-- The tool of the transfer with the given number. -/
def transfer (n : Nat) : String :=
  "transfer_call_" ++ toString n

/-- How many webhooks and transfers have a tool so far. -/
structure Counts where
  webhooks : Nat
  transfers : Nat
  deriving DecidableEq

/-- The name of the tool of a node, given the counts in front of it, and the counts behind it. -/
def assign (counts : Counts) (node : Node) : Option String × Counts :=
  if node.webhookTarget.isSome then
    (some (webhook (counts.webhooks + 1)), { counts with webhooks := counts.webhooks + 1 })
  else if node.transferTarget.isSome then
    (some (transfer (counts.transfers + 1)), { counts with transfers := counts.transfers + 1 })
  else (none, counts)

/-- The names of the tools of nodes, given the counts in front of them. -/
def dynamicFrom (counts : Counts) : List Node → List (Option String)
  | [] => []
  | node :: nodes => (assign counts node).1 :: dynamicFrom (assign counts node).2 nodes

/-- The names of the tools of nodes, node by node. -/
def dynamic (nodes : List Node) : List (Option String) :=
  dynamicFrom ⟨0, 0⟩ nodes

end ToolName

end CallFlow
