import TxGateway.Rpc.Service
/-!
# HTTP messages

The requests and responses of the gateway's HTTP server, and the rules that do not look into the
body: which verbs and content types are accepted, and which headers let a page of any origin call
the gateway.
-/

namespace TxGateway.Http

/-- A request, as far as it counts. -/
structure Request where
  verb : String
  contentType : Option String
  body : String

/-- The body of a response. -/
inductive Body where
  | empty
  | text (words : String)
  | single (reply : Rpc.Reply)
  | batch (replies : List Rpc.Reply)

/-- A body as it is sent. -/
def Body.written : Body → String
  | empty => ""
  | text words => words
  | single reply => reply.toJson.compact
  | batch replies => (Json.array (replies.map Rpc.Reply.toJson)).compact

/-- A response; names of headers are in lower case. -/
structure Response where
  status : Nat
  headers : List (String × String)
  body : Body

/-- The header that admits every origin. -/
def anyOrigin : String × String := ("access-control-allow-origin", "*")

/-- The response to an inquiry before a request of another origin. -/
def preflight : Response :=
  { status := 200
    headers :=
      [anyOrigin, ("access-control-allow-methods", "*"), ("access-control-allow-headers", "*")]
    body := .empty }

/-- A response in plain words. -/
def plain (status : Nat) (words : String) : Response :=
  ⟨status, [anyOrigin, ("content-type", "text/plain")], .text words⟩

/-- A response to a JSON-RPC message. -/
def json (status : Nat) (body : Body) : Response :=
  ⟨status, [anyOrigin, ("content-type", "application/json; charset=utf-8")], body⟩

/-- The response to another verb; to a request for the headers alone it has no body. -/
def wrongVerb (verb : String) : Response :=
  if verb = "HEAD" then plain 405 ""
  else plain 405 "Used HTTP Method is not allowed. POST or OPTIONS is required\n"

/-- The response to another content type. -/
def wrongContentType : Response :=
  plain 415 "Supplied content type is not allowed. Content-Type: application/json is required\n"

/-- Whether a content type is that of JSON text, in any letter case. -/
def isJson (contentType : Option String) : Bool :=
  match contentType with
  | some name =>
    ["application/json", "application/json; charset=utf-8",
      "application/json;charset=utf-8"].contains (String.ofList (name.toList.map Char.toLower))
  | none => false

end TxGateway.Http
