import TxGateway.Submission
/-!
# The connector

Submissions and probes against a node. A submission makes at most one call, a readiness probe
exactly one, and nothing is retried; every call is bounded by a deadline. What an operation does is
an exchange: its outcome, together with the calls that the node received.
-/

namespace TxGateway

/-- An outcome and the calls that led to it. -/
structure Exchange (α : Type) where
  outcome : α
  calls : List Node.Call

namespace Exchange

/-- An outcome for which the node was not called. -/
def silent {α : Type} (outcome : α) : Exchange α := ⟨outcome, []⟩

/-- Changes the outcome and keeps the calls. -/
def map {α β : Type} (f : α → β) (exchange : Exchange α) : Exchange β :=
  ⟨f exchange.outcome, exchange.calls⟩

@[simp] theorem outcome_silent {α : Type} (outcome : α) : (silent outcome).outcome = outcome := rfl

@[simp] theorem calls_silent {α : Type} (outcome : α) : (silent outcome).calls = [] := rfl

@[simp] theorem outcome_map {α β : Type} (f : α → β) (exchange : Exchange α) :
    (exchange.map f).outcome = f exchange.outcome := rfl

@[simp] theorem calls_map {α β : Type} (f : α → β) (exchange : Exchange α) :
    (exchange.map f).calls = exchange.calls := rfl

end Exchange

/-- The answer to a probe whether the gateway runs: it does. -/
def liveness : Liveness := ⟨true⟩

/-- The hash that a node's result states: a string that is the hex text of a hash. -/
def TxHash.ofResult (result : Json) : Except ConnectorError TxHash :=
  match result with
  | .string text => (Hex.decodeFixed 32 text).mapError fun _ => .invalidHash text
  | other => .error (.invalidHash other.compact)

/-- A connector: the time it gives the node to answer. -/
structure Connector where
  deadline : Duration

namespace Connector

/-- What a call comes to, given what the node does: the result, if one arrives in time. An error
text is searched for a reason; a missed deadline leaves no text to search. -/
def await (connector : Connector) (method : Node.Method) :
    Node.Behaviour → Except ConnectorError Json
  | .silent => .error (.timedOut method connector.deadline)
  | .replies delay reply =>
    if delay ≤ connector.deadline.milliseconds then
      match reply with
      | .result value => .ok value
      | .failure cause =>
        .error (.callFailed method (Reason.classify method.name cause.message) cause.shown)
    else .error (.timedOut method connector.deadline)

@[simp] theorem await_silent (connector : Connector) (method : Node.Method) :
    connector.await method .silent = .error (.timedOut method connector.deadline) := rfl

/-- A reply after the deadline does not count. -/
theorem await_late (connector : Connector) (method : Node.Method) {delay : Nat}
    (h : connector.deadline.milliseconds < delay) (reply : Node.Reply) :
    connector.await method (.replies delay reply) =
      .error (.timedOut method connector.deadline) := by
  simp [await, Nat.not_le.mpr h]

/-- A result up to the deadline, that moment included, is the outcome. -/
theorem await_result (connector : Connector) (method : Node.Method) {delay : Nat}
    (h : delay ≤ connector.deadline.milliseconds) (value : Json) :
    connector.await method (.replies delay (.result value)) = .ok value := by
  simp [await, h]

/-- A failure up to the deadline is the outcome, with the reason that its text shows. -/
theorem await_failure (connector : Connector) (method : Node.Method) {delay : Nat}
    (h : delay ≤ connector.deadline.milliseconds) (cause : Node.Failure) :
    connector.await method (.replies delay (.failure cause)) =
      .error (.callFailed method (Reason.classify method.name cause.message) cause.message) := by
  simp [await, h, cause.shown_eq_message]

/-- Submits a request to a node that behaves as given. -/
def submit (connector : Connector) (node : Node.Behaviour) (request : SendRequest) :
    Exchange (Except ConnectorError Receipt) :=
  match request.prepare with
  | .error cause => .silent (.error cause)
  | .ok submission =>
    let call := submission.call
    { outcome := do
        let result ← connector.await call.method node
        let hash ← TxHash.ofResult result
        return ⟨hash⟩
      calls := [call] }

/-- A request that cannot be prepared leads to no call. -/
theorem submit_of_error (connector : Connector) (node : Node.Behaviour) {request : SendRequest}
    {cause : ConnectorError} (h : request.prepare = .error cause) :
    connector.submit node request = .silent (.error cause) := by
  simp [submit, h]

/-- A request that can be prepared leads to one call, whatever the node does. -/
theorem calls_submit_of_ok (connector : Connector) (node : Node.Behaviour) {request : SendRequest}
    {submission : Submission} (h : request.prepare = .ok submission) :
    (connector.submit node request).calls = [submission.call] := by
  simp [submit, h]

/-- The call of a readiness probe. -/
def probe : Node.Call := ⟨.netVersion, .array []⟩

/-- Probes whether the node answers; its chain is reported as it names it. -/
def readiness (connector : Connector) (node : Node.Behaviour) :
    Exchange (Except ConnectorError Readiness) :=
  { outcome := do
      let chain ← connector.await probe.method node
      return ⟨true, some (.object [("chainID", chain)])⟩
    calls := [probe] }

@[simp] theorem calls_readiness (connector : Connector) (node : Node.Behaviour) :
    (connector.readiness node).calls = [probe] := rfl

end Connector

end TxGateway
