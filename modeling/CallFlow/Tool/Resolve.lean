import CallFlow.Tool.Binding
import CallFlow.Tool.Set
import CallFlow.Tool.Template

/-!
# Resolving the tools of a flow

The tools of a flow are the templates of its providers, bound to the client, in the order of the
providers, and then one tool per webhook and transfer with a target, in node order.  The latter go
to places that the author chose and are not bound to the client.
-/

namespace CallFlow

/-- What tools are resolved with. -/
structure Resolver where
  binder : Binder
  webhookTimeoutMs : UInt64
  deriving DecidableEq

namespace Resolver

/-- The tool of a webhook. -/
def webhookTool (resolver : Resolver) (name url : String) (method : WebhookMethod) : Tool :=
  ((((((Tool.new Tool.customKind name).withDescription
    "Send the caller's details collected in this step to the configured webhook.").withParameters
    .webhook).withField "url" (.string url)).withField "method" (.string method.name)).withTimeoutMs
    resolver.webhookTimeoutMs).speaksWhileWorking Tool.workingOnIt

/-- The tool of a transfer. -/
def transferTool (name number : String) : Tool :=
  (((Tool.new Tool.transferKind name).withDescription
    "Warm-transfer the caller to a team member.").withField "transfer_destination"
    (.object [("number", .string number), ("type", .string "predefined")])).withField
    "transfer_option"
    (.object [("on_hold_music", .string "ringtone"), ("type", .string "warm_transfer")])

/-- The tool of a node's own under its name, if the node has a target. -/
def dynamicTool (resolver : Resolver) (node : Node) (name : Option String) : Option Tool :=
  match name, node.webhookTarget, node.transferTarget with
  | some name, some (url, method), _ => some (resolver.webhookTool name url method)
  | some name, none, some number => some (transferTool name number)
  | _, _, _ => none

/-- The tools of nodes of their own. -/
def dynamicTools (resolver : Resolver) (nodes : List Node) : List Tool :=
  (List.zipWith resolver.dynamicTool nodes (ToolName.dynamic nodes)).filterMap id

/-- The templates of providers, bound to a client. -/
def providerTools (resolver : Resolver) (providers : List Provider) (client : Client) : List Tool :=
  providers.flatMap fun provider =>
    provider.templates.map fun template => resolver.binder.bind template client

/-- The tools of providers and nodes for a client; a name that is taken is not taken again. -/
def resolve (resolver : Resolver) (providers : ProviderSet) (nodes : List Node) (client : Client) :
    List Tool :=
  (ToolSet.ofList
    (resolver.providerTools providers.toList client ++ resolver.dynamicTools nodes)).tools

end Resolver

end CallFlow
