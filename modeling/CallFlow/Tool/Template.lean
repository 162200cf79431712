import CallFlow.Script.Provider
import CallFlow.Script.ToolName
import CallFlow.Tool.Basic

/-!
# Tool templates

Every provider brings a fixed list of tools.  Their addresses are paths on the integration backend;
binding a tool to a client completes them.
-/

namespace CallFlow

namespace Tool

/-- The kind of a tool that calls an address. -/
def customKind : String := "custom"

/-- The kind of a tool that transfers a call. -/
def transferKind : String := "transfer_call"

/-- What the agent says while a tool works. -/
def workingOnIt : String := "Let the caller know you're working on it."

/-- A tool that posts to a path of the integration backend. -/
def backend (name path : String) : Tool :=
  (((new customKind name).withField "url" (.string path)).withField
    "method" (.string WebhookMethod.post.name)).speaksWhileWorking workingOnIt

end Tool

namespace ParameterSchema

/-- The parameters of a search for open slots. -/
def availability : ParameterSchema :=
  ((empty.requiredProperty "start_date" "string" "First day to search, ISO 8601 date").property
    "end_date" "string" "Last day to search, ISO 8601 date").property
    "timezone" "string" "IANA timezone of the caller"

/-- The parameters of a booking. -/
def booking : ParameterSchema :=
  ((((empty.requiredProperty "name" "string" "The caller's full name").requiredProperty
    "email" "string" "The caller's email address").requiredProperty
    "start_time" "string" "Chosen slot start, ISO 8601 date-time").property
    "timezone" "string" "IANA timezone of the caller").property
    "notes" "string" "Anything the host should know"

/-- The parameters of a look-up in the customer records. -/
def crmLookup : ParameterSchema :=
  empty.requiredProperty "phone_number" "string" "The caller's phone number"

/-- The parameters of a webhook. -/
def webhook : ParameterSchema :=
  (((empty.property "caller_name" "string" "The caller's full name").property
    "caller_phone" "string" "The caller's phone number").property
    "caller_email" "string" "The caller's email address").property
    "notes" "string" "Any other details the caller shared"

end ParameterSchema

/-- The tools of a provider. -/
def Provider.templates : Provider → List Tool
  | .calcom => [
    ((Tool.backend (ToolName.scheduling .calcom .checkAvailability) "/tools/calcom/availability"
      ).withDescription "Check open appointment slots on the Cal.com calendar.").withParameters
      .availability,
    ((Tool.backend (ToolName.scheduling .calcom .bookAppointment) "/tools/calcom/book"
      ).withDescription "Book an appointment on the Cal.com calendar.").withParameters .booking]
  | .googleCalendar => [
    ((Tool.backend (ToolName.scheduling .googleCalendar .checkAvailability)
      "/tools/google-calendar/availability").withDescription
      "Check free time on the connected Google Calendar.").withParameters .availability,
    ((Tool.backend (ToolName.scheduling .googleCalendar .bookAppointment)
      "/tools/google-calendar/book").withDescription
      "Create an event on the connected Google Calendar.").withParameters .booking]
  | .crm => [
    ((Tool.backend ToolName.crmLookup "/tools/crm/lookup").withDescription
      "Look up the caller in the connected CRM by phone number.").withParameters .crmLookup]

end CallFlow
