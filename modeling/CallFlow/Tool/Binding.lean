import CallFlow.Text.Ends
import CallFlow.Tool.Basic

/-!
# Binding tools to a client

The tools of providers call the integration backend on behalf of a client.  Binding completes a
relative address and adds the client's headers and identity, and leaves everything else alone.
-/

namespace CallFlow

open Json

/-- A client, with the headers that the integration backend asks of it. -/
structure Client where
  id : String
  headers : List (String × String)
  deriving DecidableEq

/-- The members with texts put under keys in turn. -/
def Members.insertTexts (members : Members) (texts : List (String × String)) : Members :=
  texts.foldl (fun members (key, text) => members.insert key (.string text)) members

/-- The address of a tool behind the base address, if it is relative. -/
def absoluteUrl? (base : String) : Option Json → Option String
  | some (.string url) => if url.toList.head? = some '/' then some (base ++ url) else none
  | _ => none

/-- The members under a key that holds an object; no members when it holds anything else. -/
def Members.objectAt (members : Members) (key : String) : Members :=
  ((members.get? key).map Json.membersOrEmpty).getD []

/-- The integration backend by which tools are bound, given by its address. -/
structure Binder where
  baseUrl : String
  deriving DecidableEq

namespace Binder

/-- The binder of an address; slashes at its end do not count. -/
def ofUrl (url : String) : Binder :=
  ⟨Text.dropTrailingSlashes url⟩

/-- The extra members of a tool bound to a client. -/
def bindExtra (binder : Binder) (extra : Members) (client : Client) : Members :=
  let located :=
    match absoluteUrl? binder.baseUrl (extra.get? "url") with
    | some url => extra.insert "url" (.string url)
    | none => extra
  let headers :=
    ((located.objectAt "headers").insertTexts client.headers).insert
      "X-Client-Id" (.string client.id)
  let query := (located.objectAt "query_params").insert "client_id" (.string client.id)
  (located.insert "headers" (.object headers)).insert "query_params" (.object query)

/-- The tool bound to a client. -/
def bind (binder : Binder) (tool : Tool) (client : Client) : Tool :=
  { tool with extra := binder.bindExtra tool.extra client }

end Binder

end CallFlow
