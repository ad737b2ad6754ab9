import TxGateway.Http.Service
/-!
# Answers as operations

An operation says how an answer is found: it is there, or the node is called and what the call comes
to decides how to go on. It knows neither a clock nor a node. Every answer of the gateway is one:

* `exists_realizes_take` : the answer to a step of a session;
* `exists_realizes_answerText` : the answer to a JSON-RPC request;
* `exists_realizes_answerRequest` : the answer to an HTTP request, with all calls of a batch.
-/

namespace TxGateway

open Http (NodeScript)

/-- How an answer is found. -/
inductive Operation (α : Type) where
  | done (outcome : α)
  | call (call : Node.Call) (next : Except ConnectorError Json → Operation α)

namespace Operation

variable {α β : Type} {connector : Connector}

/-- Goes on with the outcome of an operation. -/
def andThen (next : α → Operation β) : Operation α → Operation β
  | done outcome => next outcome
  | call question rest => call question fun answer => (rest answer).andThen next

/-- Changes the outcome of an operation. -/
def map (f : α → β) (operation : Operation α) : Operation β :=
  operation.andThen fun outcome => done (f outcome)

/-- The exchange that an operation is with a node whose behaviour is given for each call in turn. -/
def run (connector : Connector) (script : NodeScript) : Operation α → Exchange α
  | done outcome => .silent outcome
  | call question next =>
    let rest := (next (connector.await question.method (script 0))).run connector (script.after 1)
    ⟨rest.outcome, question :: rest.calls⟩

/-- What comes after an operation meets the behaviours that the operation has left. -/
theorem run_andThen (operation : Operation α) (next : α → Operation β) (script : NodeScript) :
    (operation.andThen next).run connector script =
      let first := operation.run connector script
      let rest := (next first.outcome).run connector (script.after first.calls.length)
      ⟨rest.outcome, first.calls ++ rest.calls⟩ := by
  induction operation generalizing script with
  | done outcome =>
    show (next outcome).run connector script = _
    simp [run]
  | call question rest ih =>
    have hafter : ∀ calls, (script.after 1).after calls = script.after (calls + 1) := by
      intro calls
      funext n
      show script (1 + (calls + n)) = script (calls + 1 + n)
      congr 1
      omega
    simp only [andThen, run, ih, hafter]
    rfl

/-- A changed outcome comes from the same calls. -/
theorem run_map (f : α → β) (operation : Operation α) (script : NodeScript) :
    (operation.map f).run connector script = (operation.run connector script).map f := by
  rw [map, run_andThen]
  simp [run, Exchange.map, Exchange.silent]

/-- An operation realizes an answer when both are the same exchange with every node. -/
def Realizes (connector : Connector) (operation : Operation α)
    (answer : NodeScript → Exchange α) : Prop :=
  ∀ script, operation.run connector script = answer script

/-- An answer without calls is an operation. -/
theorem realizes_silent (connector : Connector) (outcome : α) :
    (done outcome).Realizes connector fun _ => .silent outcome := fun _ => rfl

/-- With an answer, the answer in another form is an operation. -/
theorem Realizes.map {operation : Operation α} {answer : NodeScript → Exchange α}
    (h : operation.Realizes connector answer) (f : α → β) :
    (operation.map f).Realizes connector fun script => (answer script).map f := by
  intro script
  rw [run_map, h script]

/-- Two answers one after the other are an operation. -/
theorem Realizes.append {first : Operation α} {second : Operation β}
    {firstAnswer : NodeScript → Exchange α} {secondAnswer : NodeScript → Exchange β}
    (hfirst : first.Realizes connector firstAnswer)
    (hsecond : second.Realizes connector secondAnswer) {γ : Type} (join : α → β → γ) :
    (first.andThen fun outcome => second.map (join outcome)).Realizes connector fun script =>
      let exchange := firstAnswer script
      let rest := secondAnswer (script.after exchange.calls.length)
      ⟨join exchange.outcome rest.outcome, exchange.calls ++ rest.calls⟩ := by
  intro script
  rw [run_andThen, hfirst script]
  simp only [run_map, hsecond _, Exchange.outcome_map, Exchange.calls_map]

end Operation

/-! ## The answers of the gateway -/

variable (connector : Connector)

/-- A submission is an operation. -/
theorem exists_realizes_submit (request : SendRequest) :
    ∃ operation : Operation (Except ConnectorError Receipt),
      operation.Realizes connector fun script => connector.submit (script 0) request := by
  cases h : request.prepare with
  | error cause =>
    refine ⟨.done (.error cause), fun script => ?_⟩
    simp only [Connector.submit, h]
    rfl
  | ok submission =>
    refine ⟨.call submission.call fun answer => .done do
      let result ← answer
      let hash ← TxHash.ofResult result
      return ⟨hash⟩, fun script => ?_⟩
    simp only [Connector.submit, h]
    rfl

/-- A readiness probe is an operation. -/
theorem exists_realizes_readiness :
    ∃ operation : Operation (Except ConnectorError Readiness),
      operation.Realizes connector fun script => connector.readiness (script 0) :=
  ⟨.call Connector.probe fun answer => .done do
    let chain ← answer
    return ⟨true, some (.object [("chainID", chain)])⟩, fun _ => rfl⟩

/-- A step of a session is an operation. -/
theorem exists_realizes_take (order : Session.Order) :
    ∃ operation : Operation Session.Answer, operation.Realizes connector fun script =>
      Session.Step.take connector ⟨order, script 0⟩ := by
  cases order with
  | send text =>
    cases hparse : SendRequest.parse text with
    | ok request =>
      obtain ⟨operation, h⟩ := exists_realizes_submit connector request
      refine ⟨operation.map .ofSubmission, fun script => ?_⟩
      simp only [Session.Step.take, hparse]
      exact h.map Session.Answer.ofSubmission script
    | error cause =>
      refine ⟨.done (.unread cause), fun script => ?_⟩
      simp only [Session.Step.take, hparse]
      rfl
  | ready =>
    obtain ⟨operation, h⟩ := exists_realizes_readiness connector
    exact ⟨operation.map .ofReadiness, h.map Session.Answer.ofReadiness⟩
  | live => exact ⟨.done (.liveness liveness), fun _ => rfl⟩

namespace Rpc

/-- A run of a method is an operation. -/
theorem exists_realizes_runMethod (method : ServiceMethod) (params : Option Json.Outline) :
    ∃ operation : Operation Outcome, operation.Realizes connector fun script =>
      runMethod connector (script 0) method params := by
  cases method with
  | sendTransaction =>
    cases hparams : readParams params with
    | ok request =>
      obtain ⟨operation, h⟩ := exists_realizes_submit connector request
      refine ⟨operation.map .ofSubmission, fun script => ?_⟩
      simp only [runMethod, hparams]
      exact h.map Outcome.ofSubmission script
    | error cause =>
      refine ⟨.done (.error (.invalidParams cause)), fun script => ?_⟩
      simp only [runMethod, hparams]
      rfl
  | isLive => exact ⟨_, Operation.realizes_silent connector _⟩
  | isReady =>
    obtain ⟨operation, h⟩ := exists_realizes_readiness connector
    exact ⟨operation.map .ofReadiness, h.map Outcome.ofReadiness⟩

/-- The answer to a request is an operation. -/
theorem exists_realizes_answer (envelope : Envelope) :
    ∃ operation : Operation Reply, operation.Realizes connector fun script =>
      answer connector (script 0) envelope := by
  unfold answer
  cases ServiceMethod.ofName? envelope.method with
  | none =>
    have h := Operation.realizes_silent connector (Outcome.error .unknownMethod)
    exact ⟨_, h.map (Reply.mk envelope.id)⟩
  | some method =>
    obtain ⟨operation, h⟩ := exists_realizes_runMethod connector method envelope.params
    exact ⟨_, h.map (Reply.mk envelope.id)⟩

/-- The answer to the text of a request is an operation. -/
theorem exists_realizes_answerText (text : String) :
    ∃ operation : Operation (Except Json.ReadError Reply), operation.Realizes connector
      fun script => answerText connector (script 0) text := by
  cases henvelope : Envelope.read.parse text with
  | ok envelope =>
    obtain ⟨operation, h⟩ := exists_realizes_answer connector envelope
    refine ⟨operation.map .ok, fun script => ?_⟩
    simp only [answerText, henvelope]
    exact h.map Except.ok script
  | error cause =>
    refine ⟨.done (.error cause), fun script => ?_⟩
    simp only [answerText, henvelope]
    rfl

end Rpc

namespace Http

open Json Rpc

/-- The answer to a message that stands alone is an operation. -/
theorem exists_realizes_answerSingle (document : Document) :
    ∃ operation : Operation Body, operation.Realizes connector fun script =>
      answerSingle connector script document := by
  unfold answerSingle
  cases Message.ofDocument document with
  | request envelope =>
    obtain ⟨operation, h⟩ := exists_realizes_answer connector envelope
    exact ⟨operation.map .single, h.map Body.single⟩
  | notification | identified | unusable => exact ⟨_, Operation.realizes_silent connector _⟩

/-- The answer to an element of a batch is an operation. -/
theorem exists_realizes_answerElement (element : Outline) :
    ∃ operation : Operation (Option Reply), operation.Realizes connector fun script =>
      answerElement connector (script 0) element := by
  unfold answerElement
  cases Message.ofDocument ⟨element, false⟩ with
  | request envelope =>
    obtain ⟨operation, h⟩ := exists_realizes_answer connector envelope
    exact ⟨operation.map some, h.map some⟩
  | notification | identified | unusable => exact ⟨_, Operation.realizes_silent connector _⟩

/-- The answers to the elements of a batch are an operation. -/
theorem exists_realizes_answerElements (elements : List Outline) :
    ∃ operation : Operation (List Reply), operation.Realizes connector fun script =>
      answerElements connector script elements := by
  induction elements with
  | nil => exact ⟨.done [], fun _ => rfl⟩
  | cons element elements ih =>
    obtain ⟨first, hfirst⟩ := exists_realizes_answerElement connector element
    obtain ⟨rest, hrest⟩ := ih
    exact ⟨_, hfirst.append hrest fun reply replies => reply.toList ++ replies⟩

/-- The answer to a batch is an operation. -/
theorem exists_realizes_answerBatch (document : Document) :
    ∃ operation : Operation Body, operation.Realizes connector fun script =>
      answerBatch connector script document := by
  unfold answerBatch
  rcases batchElements? document with _ | _ | ⟨element, elements⟩
  · exact ⟨_, Operation.realizes_silent connector _⟩
  · exact ⟨_, Operation.realizes_silent connector _⟩
  · obtain ⟨operation, h⟩ := exists_realizes_answerElements connector (element :: elements)
    exact ⟨_, h.map _⟩

/-- The answer to an HTTP request is an operation. -/
theorem exists_realizes_answerRequest (request : Request) :
    ∃ operation : Operation Response, operation.Realizes connector fun script =>
      answerRequest connector script request := by
  unfold answerRequest
  split
  · exact ⟨_, Operation.realizes_silent connector _⟩
  split
  · split
    · unfold answerBody
      simp only
      split
      · obtain ⟨operation, h⟩ := exists_realizes_answerSingle connector
          (Scanner.scan (request.body.toList.dropWhile isSpace))
        exact ⟨_, h.map _⟩
      · obtain ⟨operation, h⟩ := exists_realizes_answerBatch connector
          (Scanner.scan (request.body.toList.dropWhile isSpace))
        exact ⟨_, h.map _⟩
      · exact ⟨_, Operation.realizes_silent connector _⟩
    · exact ⟨_, Operation.realizes_silent connector _⟩
  · exact ⟨_, Operation.realizes_silent connector _⟩

end Http

end TxGateway
