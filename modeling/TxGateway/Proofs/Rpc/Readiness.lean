import TxGateway.Proofs.Rpc.Calls
import TxGateway.Proofs.Submission
/-!
# Readiness

A probe of the node always has an answer. `Probes` lists the three ways in which the call of the
node can end, with what is reported in each of them and what the connector itself returns.

* `Probes.unique` : the behaviour of the node and the deadline decide what is reported;
* `readiness_always_answered` : every request for readiness leads to one call and has a result: the
  node is ready exactly if a result arrives in time, and then the result stands in the reply as it
  is.
-/

namespace TxGateway

open Json Fallible

/-! ## What is reported -/

/-- The report that the node is ready, with the chain that it named. -/
def readyReport (chain : Json) : Json :=
  .object [("ready", .bool true), ("downstreamDetails", .object [("chainID", chain)])]

/-- The report that the node is not ready: the text of the failure, without reason or code. -/
def unreadyReport (error : String) : Json :=
  .object [("ready", .bool false),
    ("downstreamDetails", .object [("error", .string error), ("reason", .string "")])]

/-- The text that says that a probe had no answer in time. -/
def probeTimeout (deadline : Duration) : String :=
  "net_version did not complete within " ++ deadline.text

namespace Connector

variable {connector : Connector} {node : Node.Behaviour}

/-- How a probe ends: what the connector returns, and what is reported to the caller. -/
inductive Probes (connector : Connector) (node : Node.Behaviour) :
    Except ConnectorError Readiness → Json → Prop
  /-- A result arrives in time. -/
  | ready {chain : Json} (reply : node.RepliesWithin connector.deadline (.result chain)) :
      Probes connector node (.ok ⟨true, some (.object [("chainID", chain)])⟩) (readyReport chain)
  /-- An error arrives in time. -/
  | failed {cause : Node.Failure} (reply : node.RepliesWithin connector.deadline (.failure cause)) :
      Probes connector node (.error (.callFailed .netVersion none cause.message))
        (unreadyReport cause.message)
  /-- Nothing arrives in time. -/
  | missed (late : ∀ reply, ¬ node.RepliesWithin connector.deadline reply) :
      Probes connector node (.error (.timedOut .netVersion connector.deadline))
        (unreadyReport (probeTimeout connector.deadline))

/-- No reason is read off what a node says to a probe, whatever phrases it uses. -/
theorem classify_netVersion (text : String) :
    Reason.classify Node.Method.netVersion.name text = none := by
  rw [Reason.classify_name]
  rfl

/-- A probe ends in one of the three ways. -/
theorem probes_readiness (connector : Connector) (node : Node.Behaviour) :
    ∃ state : Readiness,
      Rpc.Outcome.ofReadiness (connector.readiness node).outcome = .readiness state ∧
        Probes connector node (connector.readiness node).outcome state.toJson := by
  have houtcome : (connector.readiness node).outcome =
      (connector.await .netVersion node).map
        fun chain => ⟨true, some (.object [("chainID", chain)])⟩ := by
    cases hawait : connector.await .netVersion node <;>
      simp [readiness, probe, hawait, bind, Except.bind, Except.map, pure, Except.pure]
  rw [houtcome]
  rcases await_cases connector node .netVersion with
    ⟨chain, hreply, hawait⟩ | ⟨cause, hreply, hawait⟩ | ⟨hlate, hawait⟩
  · rw [hawait]
    exact ⟨_, rfl, .ready hreply⟩
  · rw [hawait, classify_netVersion]
    exact ⟨_, rfl, .failed hreply⟩
  · rw [hawait]
    exact ⟨_, rfl, .missed hlate⟩

variable {outcome : Except ConnectorError Readiness} {report : Json}

/-- The report says one of two things. -/
theorem Probes.report_cases (h : Probes connector node outcome report) :
    (∃ chain, report = readyReport chain) ∨ ∃ error, report = unreadyReport error := by
  cases h with
  | ready => exact Or.inl ⟨_, rfl⟩
  | failed | missed => exact Or.inr ⟨_, rfl⟩

/-- The report that the node is ready is made exactly for a result in time, and with this result. -/
theorem Probes.eq_readyReport_iff (h : Probes connector node outcome report) (chain : Json) :
    report = readyReport chain ↔ node.RepliesWithin connector.deadline (.result chain) := by
  cases h with
  | ready reply =>
    constructor
    · intro hsame
      cases hsame
      exact reply
    · intro hother
      cases reply.unique hother
      rfl
  | failed reply =>
    refine ⟨fun hsame => ?_, fun hother => ?_⟩
    · cases hsame
    · cases reply.unique hother
  | missed late =>
    refine ⟨fun hsame => ?_, fun hother => absurd hother (late _)⟩
    cases hsame

/-- The report that the node is not ready is made exactly for a failure in time, with its text, and
where nothing arrives in time. -/
theorem Probes.eq_unreadyReport_iff (h : Probes connector node outcome report) (error : String) :
    report = unreadyReport error ↔
      (∃ cause, node.RepliesWithin connector.deadline (.failure cause) ∧ error = cause.message) ∨
        ((∀ reply, ¬ node.RepliesWithin connector.deadline reply) ∧
          error = probeTimeout connector.deadline) := by
  have hinjective : ∀ words, unreadyReport words = unreadyReport error ↔ error = words := by
    simp [unreadyReport, eq_comm]
  cases h with
  | ready reply =>
    refine ⟨fun hsame => ?_, ?_⟩
    · cases hsame
    · rintro (⟨cause, hother, -⟩ | ⟨hlate, -⟩)
      · cases reply.unique hother
      · exact absurd reply (hlate _)
  | failed reply =>
    rw [hinjective]
    constructor
    · intro hsame
      exact Or.inl ⟨_, reply, hsame⟩
    · rintro (⟨cause, hother, hsame⟩ | ⟨hlate, -⟩)
      · cases reply.unique hother
        exact hsame
      · exact absurd reply (hlate _)
  | missed late =>
    rw [hinjective]
    constructor
    · intro hsame
      exact Or.inr ⟨late, hsame⟩
    · rintro (⟨cause, hother, -⟩ | ⟨-, hsame⟩)
      · exact absurd hother (late _)
      · exact hsame

/-- A probe fails exactly where the node is reported not to be ready, and then its text is told. -/
theorem Probes.eq_error_iff (h : Probes connector node outcome report) (words : String) :
    (∃ cause, outcome = .error cause ∧ cause.message = words) ↔ report = unreadyReport words := by
  cases h with
  | ready reply =>
    constructor
    · rintro ⟨cause, hcause, -⟩
      cases hcause
    · intro hsame
      cases hsame
  | failed | missed =>
    constructor
    · rintro ⟨cause, hcause, rfl⟩
      cases hcause
      rfl
    · intro hsame
      cases hsame
      exact ⟨_, rfl, rfl⟩

end Connector

namespace Rpc

/-! ## The method -/

/-- **Readiness.** Every request for readiness leads to one call, `net_version` without parameters,
and has a result. The node is reported ready exactly if a result arrives in time, and its chain is
this result as it is; otherwise the report holds the text of the failure, or says that the time is
over, and neither a reason nor a code. The connector itself makes the same call, and it fails
exactly where the node is reported not to be ready. -/
theorem readiness_always_answered (connector : Connector) (node : Node.Behaviour) {text : String}
    {envelope : Envelope} (henvelope : Envelope.read.parse text = .ok envelope)
    (hmethod : envelope.method = "is_ready") :
    ∃ (call : Node.Call) (reply : Reply) (report : Json),
      (answerText connector node text).calls = [call] ∧ call.method.name = "net_version" ∧
        call.params = .array [] ∧
      (answerText connector node text).outcome = .ok reply ∧
      reply.toJson = sentResult envelope.id report ∧
      (∀ chain, report = readyReport chain ↔
        node.RepliesWithin connector.deadline (.result chain)) ∧
      (∀ error, report = unreadyReport error ↔
        (∃ cause, node.RepliesWithin connector.deadline (.failure cause) ∧ error = cause.message) ∨
          ((∀ reply, ¬ node.RepliesWithin connector.deadline reply) ∧
            error = probeTimeout connector.deadline)) ∧
      ((∃ chain, report = readyReport chain) ∨ ∃ error, report = unreadyReport error) ∧
      (connector.readiness node).calls = [call] ∧
      (∀ words, (∃ cause, (connector.readiness node).outcome = .error cause ∧
        cause.message = words) ↔ report = unreadyReport words) ∧
      (∀ state, (connector.readiness node).outcome = .ok state → report = state.toJson) := by
  obtain ⟨state, hstate, hprobes⟩ := connector.probes_readiness node
  have hanswer : answerText connector node text = ⟨.ok ⟨envelope.id, .readiness state⟩,
      [Connector.probe]⟩ := by
    have hname : ServiceMethod.ofName? envelope.method = some .isReady := by
      rw [hmethod]
      rfl
    simp only [answerText, henvelope, answer, hname, runMethod, Exchange.map, hstate,
      Connector.calls_readiness]
  rw [hanswer]
  refine ⟨Connector.probe, _, state.toJson, rfl, rfl, rfl, rfl, rfl, hprobes.eq_readyReport_iff,
    hprobes.eq_unreadyReport_iff, hprobes.report_cases, rfl, hprobes.eq_error_iff, ?_⟩
  intro other hother
  rw [hother] at hstate
  cases hstate
  rfl

/-- A node that refuses the probe at the last moment, in the words for a nonce that is too low. -/
theorem readiness_always_answered_refusal :
    let text := requestText (.number 7) "is_ready" "[]"
    let node : Node.Behaviour := .replies 250 (.failure (.refused (-32000) "nonce too low"))
    Envelope.read.parse text = .ok ⟨.number 7, "is_ready", some (.array false [] .closed)⟩ ∧
      (answerText ⟨⟨250⟩⟩ node text).calls = [⟨.netVersion, .array []⟩] ∧
      ∃ reply, (answerText ⟨⟨250⟩⟩ node text).outcome = .ok reply ∧
        reply.toJson = sentResult (.number 7) (.object [("ready", .bool false),
          ("downstreamDetails",
            .object [("error", .string "nonce too low"), ("reason", .string "")])]) := by
  have hid : Id.Usable (.number 7) := by
    show 7 < Digits.capacity 2 64
    decide
  have hparams : Spells "[]".toList (.array false [] .closed) := .emptyArray space_nil
  have henvelope := parse_requestText hid "is_ready" hparams fun h => by cases h
  obtain ⟨call, reply, report, hcalls, -, -, hreply, hjson, -, hunready, -, hdirect, -⟩ :=
    readiness_always_answered ⟨⟨250⟩⟩ (.replies 250 (.failure (.refused (-32000) "nonce too low")))
      henvelope rfl
  have hreport := (hunready "nonce too low").mpr
    (Or.inl ⟨.refused (-32000) "nonce too low", ⟨250, rfl, Nat.le_refl _⟩, rfl⟩)
  have hcall : [Connector.probe] = [call] := hdirect
  rw [← hcall] at hcalls
  rw [hreport] at hjson
  exact ⟨henvelope, hcalls, reply, hreply, hjson⟩

end Rpc

end TxGateway
