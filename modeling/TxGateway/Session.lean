import TxGateway.Connector
/-!
# Sessions

A session is a list of steps, each a request given as a text or a probe, with what the node does if
it is called. No step leaves anything behind for the next.
-/

namespace TxGateway.Session

open Json

/-- What is asked of the connector. -/
inductive Order where
  | send (request : String)
  | ready
  | live

/-- An order, and what the node does if the order leads to a call. -/
structure Step where
  order : Order
  node : Node.Behaviour

/-- What an order comes to. -/
inductive Answer where
  | receipt (accepted : Receipt)
  | readiness (state : Readiness)
  | liveness (state : Liveness)
  /-- The text of the request cannot be read. -/
  | unread (cause : ReadError)
  | failed (cause : ConnectorError)

/-- The answer to a submission. -/
def Answer.ofSubmission : Except ConnectorError Receipt → Answer
  | .ok accepted => .receipt accepted
  | .error cause => .failed cause

/-- The answer to a readiness probe. -/
def Answer.ofReadiness : Except ConnectorError Readiness → Answer
  | .ok state => .readiness state
  | .error cause => .failed cause

/-- Takes one step. -/
def Step.take (connector : Connector) (step : Step) : Exchange Answer :=
  match step.order with
  | .send text =>
    match SendRequest.parse text with
    | .ok request => (connector.submit step.node request).map .ofSubmission
    | .error cause => .silent (.unread cause)
  | .ready => (connector.readiness step.node).map .ofReadiness
  | .live => .silent (.liveness TxGateway.liveness)

/-- Takes all steps of a session. -/
def run (connector : Connector) (steps : List Step) : List (Exchange Answer) :=
  steps.map (Step.take connector)

end TxGateway.Session
