import TxGateway.Rpc.Reply
import TxGateway.Session
/-!
# The JSON-RPC service

The three methods of the gateway. A readiness probe always has a result: if it fails, the result
says that the gateway is not ready, and why.
-/

namespace TxGateway.Rpc

/-- The methods that the gateway offers. -/
inductive ServiceMethod where
  | sendTransaction
  | isLive
  | isReady
deriving DecidableEq, Repr

/-- The name of a method. -/
def ServiceMethod.name : ServiceMethod → String
  | sendTransaction => "send_transaction"
  | isLive => "is_live"
  | isReady => "is_ready"

/-- The method with a given name. -/
def ServiceMethod.ofName? (name : String) : Option ServiceMethod :=
  [sendTransaction, isLive, isReady].find? fun method => method.name == name

/-- The outcome of a submission. -/
def Outcome.ofSubmission : Except ConnectorError Receipt → Outcome
  | .ok accepted => .receipt accepted
  | .error cause => .error (.failed cause)

/-- The outcome of a readiness probe. -/
def Outcome.ofReadiness : Except ConnectorError Readiness → Outcome
  | .ok state => .readiness state
  | .error cause => .readiness ⟨false, some cause.body.details⟩

/-- Runs a method on its parameters. -/
def runMethod (connector : Connector) (node : Node.Behaviour) (method : ServiceMethod)
    (params : Option Json.Outline) : Exchange Outcome :=
  match method with
  | .sendTransaction =>
    match readParams params with
    | .ok request => (connector.submit node request).map .ofSubmission
    | .error cause => .silent (.error (.invalidParams cause))
  | .isLive => .silent (.liveness TxGateway.liveness)
  | .isReady => (connector.readiness node).map .ofReadiness

/-- Answers a request. -/
def answer (connector : Connector) (node : Node.Behaviour) (envelope : Envelope) :
    Exchange Reply :=
  let exchange :=
    match ServiceMethod.ofName? envelope.method with
    | some method => runMethod connector node method envelope.params
    | none => .silent (.error .unknownMethod)
  exchange.map fun outcome => ⟨envelope.id, outcome⟩

/-- Answers the text of a request. A text that is no request leads to no call. -/
def answerText (connector : Connector) (node : Node.Behaviour) (text : String) :
    Exchange (Except Json.ReadError Reply) :=
  match Envelope.read.parse text with
  | .ok envelope => (answer connector node envelope).map .ok
  | .error cause => .silent (.error cause)

/-- A request, and what the node does if the request leads to a call. -/
structure Step where
  request : String
  node : Node.Behaviour

/-- Answers a list of requests one by one. -/
def run (connector : Connector) (steps : List Step) :
    List (Exchange (Except Json.ReadError Reply)) :=
  steps.map fun step => answerText connector step.node step.request

end TxGateway.Rpc
