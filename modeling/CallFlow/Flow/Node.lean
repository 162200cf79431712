import CallFlow.Text.Blank

/-!
# Nodes of a conversation flow

A node is one step of a conversation, of one of nine kinds with a payload of its own.  Authors may
also write down where a node leads; these links are kept but a flow is compiled in list order.
-/

namespace CallFlow

/-- A calendar service that schedules appointments. -/
inductive SchedulingProvider where
  | calcom
  | googleCalendar
  deriving DecidableEq

/-- The request method of a webhook. -/
inductive WebhookMethod where
  | post
  | get
  deriving DecidableEq

/-- The name of a request method. -/
def WebhookMethod.name : WebhookMethod → String
  | .post => "POST"
  | .get => "GET"

/-- An answer that a question offers, and the node that the author linked to it. -/
structure Choice where
  label : String
  next : Option String
  deriving DecidableEq

/-- What a node does, with the payload of its kind. -/
inductive NodeKind where
  | message (text : Option String)
  | question (text : Option String) (choices : List Choice)
  | condition (condition whenTrue whenFalse : Option String)
  | transfer (number text : Option String)
  | closing (text : Option String)
  | checkAvailability (provider : Option SchedulingProvider) (text : Option String)
  | bookAppointment (provider : Option SchedulingProvider) (text : Option String)
  | crmLookup (text : Option String)
  | webhook (url : Option String) (method : WebhookMethod)
  deriving DecidableEq

/-- The kind of a node without its payload. -/
inductive NodeType where
  | message
  | question
  | condition
  | transfer
  | closing
  | checkAvailability
  | bookAppointment
  | crmLookup
  | webhook
  deriving DecidableEq

/-- The kind without the payload. -/
def NodeKind.type : NodeKind → NodeType
  | .message _ => .message
  | .question _ _ => .question
  | .condition _ _ _ => .condition
  | .transfer _ _ => .transfer
  | .closing _ => .closing
  | .checkAvailability _ _ => .checkAvailability
  | .bookAppointment _ _ => .bookAppointment
  | .crmLookup _ => .crmLookup
  | .webhook _ _ => .webhook

/-- A node of a flow. -/
structure Node where
  id : String
  kind : NodeKind
  /-- The node that the author linked behind this one. -/
  next : Option String
  deriving DecidableEq

namespace Node

/-- A node without a link. -/
def ofKind (id : String) (kind : NodeKind) : Node :=
  ⟨id, kind, none⟩

/-- The address and method of a webhook node whose address is not blank. -/
def webhookTarget (node : Node) : Option (String × WebhookMethod) :=
  match node.kind with
  | .webhook url method => (Text.nonBlank url).map (·, method)
  | _ => none

/-- The number of a transfer node whose number is not blank. -/
def transferTarget (node : Node) : Option String :=
  match node.kind with
  | .transfer number _ => Text.nonBlank number
  | _ => none

/-- One for a link that is there. -/
def countLink (link : Option String) : Nat :=
  if link.isSome then 1 else 0

/-- The number of links in the payload of a node. -/
def payloadLinks : NodeKind → Nat
  | .question _ choices => choices.countP (·.next.isSome)
  | .condition _ whenTrue whenFalse => countLink whenTrue + countLink whenFalse
  | _ => 0

/-- The number of links that the author wrote at a node. -/
def branchLinks (node : Node) : Nat :=
  countLink node.next + payloadLinks node.kind

end Node

end CallFlow
