import TxGateway.Http.Message
/-!
# The HTTP service

JSON-RPC over HTTP: a body holds one message or a batch of them. Requests are executed and answered;
notifications are neither; anything else is answered with an error. The node's behaviour is given
for each call in turn.
-/

namespace TxGateway.Http

open Json Rpc

/-- What the node does at each call, counted from zero. -/
abbrev NodeScript := Nat → Node.Behaviour

/-- The behaviours that are left after a number of calls. -/
def NodeScript.after (script : NodeScript) (calls : Nat) : NodeScript := fun n => script (calls + n)

@[simp] theorem NodeScript.after_zero (script : NodeScript) : script.after 0 = script := by
  funext n
  simp [after]

/-- An error reply. -/
def errorReply (id : Id) (cause : RpcError) : Reply := ⟨id, .error cause⟩

/-- Answers a message that stands alone. A message that is not even JSON has no identifier. -/
def answerSingle (connector : Connector) (script : NodeScript) (document : Document) :
    Exchange Body :=
  match Message.ofDocument document with
  | .request envelope => (answer connector (script 0) envelope).map .single
  | .notification => .silent .empty
  | .identified id => .silent (.single (errorReply id .invalidRequest))
  | .unusable => .silent (.single (errorReply .null .unparseable))

/-- Answers an element of a batch, if it is to be answered. -/
def answerElement (connector : Connector) (node : Node.Behaviour) (element : Outline) :
    Exchange (Option Reply) :=
  match Message.ofDocument ⟨element, false⟩ with
  | .request envelope => (answer connector node envelope).map some
  | .notification => .silent none
  | .identified id => .silent (some (errorReply id .invalidRequest))
  | .unusable => .silent (some (errorReply .null .invalidRequest))

/-- Answers the elements of a batch in order; each call of the node meets the next behaviour. -/
def answerElements (connector : Connector) (script : NodeScript) :
    List Outline → Exchange (List Reply)
  | [] => .silent []
  | element :: elements =>
    let first := answerElement connector (script 0) element
    let rest := answerElements connector (script.after first.calls.length) elements
    ⟨first.outcome.toList ++ rest.outcome, first.calls ++ rest.calls⟩

/-- The elements of a batch, if the whole text is an array of well-formed values. -/
def batchElements? (document : Document) : Option (List Outline) :=
  match document.root with
  | .array _ elements .closed =>
    match skipItems elements with
    | .ok () => if document.trailing then none else some elements
    | .error _ => none
  | _ => none

/-- Answers a batch. An empty one is an invalid request; if there is nothing to answer, the body is
empty. -/
def answerBatch (connector : Connector) (script : NodeScript) (document : Document) :
    Exchange Body :=
  match batchElements? document with
  | none => .silent (.single (errorReply .null .unparseable))
  | some [] => .silent (.single (errorReply .null .invalidRequest))
  | some elements =>
    (answerElements connector script elements).map fun replies =>
      if replies.isEmpty then .empty else .batch replies

/-- The white space that may stand before the body of a request. -/
def isSpace (c : Char) : Bool :=
  c = ' ' || c = '\t' || c = '\n' || c = '\r' || c = '\x0c'

/-- Answers a body: its first character tells a single message from a batch. -/
def answerBody (connector : Connector) (script : NodeScript) (body : String) : Exchange Response :=
  let text := body.toList.dropWhile isSpace
  match text with
  | '{' :: _ => (answerSingle connector script (Scanner.scan text)).map (json 200)
  | '[' :: _ => (answerBatch connector script (Scanner.scan text)).map (json 200)
  | _ => .silent (json 400 (.single (errorReply .null .unparseable)))

/-- Answers an HTTP request. -/
def answerRequest (connector : Connector) (script : NodeScript) (request : Request) :
    Exchange Response :=
  if request.verb = "OPTIONS" then .silent preflight
  else if request.verb = "POST" then
    if isJson request.contentType then answerBody connector script request.body
    else .silent wrongContentType
  else .silent (wrongVerb request.verb)

end TxGateway.Http
