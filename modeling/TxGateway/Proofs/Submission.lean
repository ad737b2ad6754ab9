import TxGateway.Connector
import TxGateway.Proofs.HexText
import TxGateway.Proofs.Preparation
/-!
# Submissions from end to end

What a submission comes to, for every request, deadline and behaviour of the node. `Connector.Ends`
lists the four ways in which the call of the node can end; `SendRequest.Dispatches` says which call
it is, and depends on the request alone. The main results:

* `submit_end_to_end` : a request that cannot be prepared leads to no call, any other to exactly
  one, and the outcome is decided by the reply that arrives in time, if one does;
* `failure_reveals_contact` : the body of a failure tells whether the node was called.
-/

namespace TxGateway

open Fallible

/-! ## Replies in time -/

/-- The node gives a reply no later than the deadline. -/
def Node.Behaviour.RepliesWithin (node : Node.Behaviour) (deadline : Duration)
    (reply : Node.Reply) : Prop :=
  ∃ delay, node = .replies delay reply ∧ delay ≤ deadline.milliseconds

/-- There is at most one reply in time. -/
theorem Node.Behaviour.RepliesWithin.unique {node : Node.Behaviour} {deadline : Duration}
    {first second : Node.Reply} (hfirst : node.RepliesWithin deadline first)
    (hsecond : node.RepliesWithin deadline second) : first = second := by
  obtain ⟨delay, rfl, -⟩ := hfirst
  obtain ⟨other, h, -⟩ := hsecond
  cases h
  rfl

/-- The one way in which a result is refused: it does not state a hash. -/
theorem TxHash.exists_of_ofResult_eq_error {value : Json} {error : ConnectorError}
    (h : TxHash.ofResult value = .error error) : ∃ answer, error = .invalidHash answer := by
  unfold TxHash.ofResult at h
  split at h
  · obtain ⟨-, -, rfl⟩ := mapError_eq_error_iff.mp h
    exact ⟨_, rfl⟩
  · cases h
    exact ⟨_, rfl⟩

/-- The call that a request asks for: a signed one is sent as the canonical text of its payload, any
other as its transaction. -/
def SendRequest.Dispatches (request : SendRequest) (call : Node.Call) : Prop :=
  if request.preSigned then
    call.method.name = "eth_sendRawTransaction" ∧
      ∃ payload text, Hex.decode (request.data.getD "") = .ok payload ∧
        Hex.IsLowerText text payload ∧ call.params = .array [.string text]
  else
    call.method.name = "eth_sendTransaction" ∧
      ∃ transaction, request.transaction = .ok transaction ∧
        call.params = .array [transaction.toJson]

namespace Connector

/-- How a submission ends whose call of `method` reaches the node. -/
inductive Ends (connector : Connector) (node : Node.Behaviour) (method : Node.Method) :
    Except ConnectorError Receipt → Prop
  /-- A result arrives in time and states a hash. -/
  | accepted {value : Json} {hash : TxHash}
      (reply : node.RepliesWithin connector.deadline (.result value))
      (valid : TxHash.ofResult value = .ok hash) :
      Ends connector node method (.ok ⟨hash⟩)
  /-- A result arrives in time and states none. -/
  | rejected {value : Json} {answer : String}
      (reply : node.RepliesWithin connector.deadline (.result value))
      (invalid : TxHash.ofResult value = .error (.invalidHash answer)) :
      Ends connector node method (.error (.invalidHash answer))
  /-- An error arrives in time. -/
  | failed {cause : Node.Failure}
      (reply : node.RepliesWithin connector.deadline (.failure cause)) :
      Ends connector node method
        (.error (.callFailed method (Reason.classify method.name cause.message) cause.message))
  /-- Nothing arrives in time. -/
  | missed (late : ∀ reply, ¬ node.RepliesWithin connector.deadline reply) :
      Ends connector node method (.error (.timedOut method connector.deadline))

variable {connector : Connector} {node : Node.Behaviour} {request : SendRequest}

/-- What a call comes to, without the check of its result. -/
theorem await_cases (connector : Connector) (node : Node.Behaviour) (method : Node.Method) :
    (∃ value, node.RepliesWithin connector.deadline (.result value) ∧
      connector.await method node = .ok value) ∨
    (∃ cause, node.RepliesWithin connector.deadline (.failure cause) ∧
      connector.await method node =
        .error (.callFailed method (Reason.classify method.name cause.message) cause.message)) ∨
    ((∀ reply, ¬ node.RepliesWithin connector.deadline reply) ∧
      connector.await method node = .error (.timedOut method connector.deadline)) := by
  cases node with
  | silent =>
    -- Without a reply there is none in time.
    refine Or.inr (Or.inr ⟨?_, await_silent connector method⟩)
    rintro reply ⟨delay, h, -⟩
    cases h
  | replies delay reply =>
    by_cases hdelay : delay ≤ connector.deadline.milliseconds
    · cases reply with
      | result value =>
        exact Or.inl ⟨value, ⟨delay, rfl, hdelay⟩, await_result connector method hdelay value⟩
      | failure cause =>
        refine Or.inr (Or.inl ⟨cause, ⟨delay, rfl, hdelay⟩, ?_⟩)
        exact await_failure connector method hdelay cause
    · refine Or.inr (Or.inr ⟨?_, await_late connector method (by omega) reply⟩)
      rintro other ⟨_, h, hother⟩
      cases h
      exact hdelay hother

/-- The outcome of a submission that is prepared. -/
theorem outcome_submit_of_ok (connector : Connector) (node : Node.Behaviour)
    {submission : Submission} (h : request.prepare = .ok submission) :
    (connector.submit node request).outcome =
      (connector.await submission.call.method node >>= fun result =>
        TxHash.ofResult result >>= fun hash => .ok ⟨hash⟩) := by
  simp only [submit, h]
  rfl

/-- A submission that is prepared ends in one of the four ways. -/
theorem ends_submit (connector : Connector) (node : Node.Behaviour) {submission : Submission}
    (h : request.prepare = .ok submission) :
    Ends connector node submission.call.method (connector.submit node request).outcome := by
  rw [outcome_submit_of_ok connector node h]
  rcases await_cases connector node submission.call.method with
    ⟨value, hreply, hawait⟩ | ⟨cause, hreply, hawait⟩ | ⟨hlate, hawait⟩
  · rw [hawait]
    cases hhash : TxHash.ofResult value with
    | ok hash =>
      show Ends _ _ _ (TxHash.ofResult value >>= fun hash => Except.ok (⟨hash⟩ : Receipt))
      rw [hhash]
      exact .accepted hreply hhash
    | error error =>
      obtain ⟨answer, rfl⟩ := TxHash.exists_of_ofResult_eq_error hhash
      show Ends _ _ _ (TxHash.ofResult value >>= fun hash => Except.ok (⟨hash⟩ : Receipt))
      rw [hhash]
      exact .rejected hreply hhash
  · rw [hawait]
    exact .failed hreply
  · rw [hawait]
    exact .missed hlate

/-- The behaviour of the node and the deadline leave one way to end. -/
theorem Ends.unique {method : Node.Method} {first second : Except ConnectorError Receipt}
    (hfirst : Ends connector node method first) (hsecond : Ends connector node method second) :
    first = second := by
  -- Ends for different replies exclude each other; for the one reply the check of it decides.
  cases hfirst with
  | accepted reply valid =>
    cases hsecond with
    | accepted other valid' =>
      cases reply.unique other
      rw [valid] at valid'
      cases valid'
      rfl
    | rejected other invalid =>
      cases reply.unique other
      rw [valid] at invalid
      cases invalid
    | failed other => cases reply.unique other
    | missed late => exact absurd reply (late _)
  | rejected reply invalid =>
    cases hsecond with
    | accepted other valid =>
      cases reply.unique other
      rw [invalid] at valid
      cases valid
    | rejected other invalid' =>
      cases reply.unique other
      rw [invalid] at invalid'
      cases invalid'
      rfl
    | failed other => cases reply.unique other
    | missed late => exact absurd reply (late _)
  | failed reply =>
    cases hsecond with
    | accepted other _ => cases reply.unique other
    | rejected other _ => cases reply.unique other
    | failed other =>
      cases reply.unique other
      rfl
    | missed late => exact absurd reply (late _)
  | missed late =>
    cases hsecond with
    | accepted reply _ => exact absurd reply (late _)
    | rejected reply _ => exact absurd reply (late _)
    | failed reply => exact absurd reply (late _)
    | missed _ => rfl

/-- A submission ends in a receipt exactly for a result in time that states the hash. -/
theorem ends_receipt_iff {method : Node.Method} {hash : TxHash} :
    Ends connector node method (.ok ⟨hash⟩) ↔
      ∃ value, node.RepliesWithin connector.deadline (.result value) ∧
        TxHash.ofResult value = .ok hash := by
  constructor
  · rintro (⟨reply, valid⟩ | _)
    exact ⟨_, reply, valid⟩
  · rintro ⟨value, reply, valid⟩
    exact .accepted reply valid

/-- A submission ends in a refused result exactly for a result in time that is refused. -/
theorem ends_invalidHash_iff {method : Node.Method} {answer : String} :
    Ends connector node method (.error (.invalidHash answer)) ↔
      ∃ value, node.RepliesWithin connector.deadline (.result value) ∧
        TxHash.ofResult value = .error (.invalidHash answer) := by
  constructor
  · rintro (_ | ⟨reply, invalid⟩)
    exact ⟨_, reply, invalid⟩
  · rintro ⟨value, reply, invalid⟩
    exact .rejected reply invalid

/-- A submission ends in a classified failure exactly for an error in time, whose text it keeps. -/
theorem ends_callFailed_iff {method failed : Node.Method} {reason : Option Reason}
    {message : String} :
    Ends connector node method (.error (.callFailed failed reason message)) ↔
      ∃ cause, node.RepliesWithin connector.deadline (.failure cause) ∧
        failed = method ∧ message = cause.message ∧
        reason = Reason.classify method.name message := by
  constructor
  · rintro (_ | _ | ⟨reply⟩)
    exact ⟨_, reply, rfl, rfl, rfl⟩
  · rintro ⟨cause, reply, rfl, rfl, rfl⟩
    exact .failed reply

/-- A submission ends in a missed deadline exactly where no reply arrives in time. -/
theorem ends_timedOut_iff {method late : Node.Method} {deadline : Duration} :
    Ends connector node method (.error (.timedOut late deadline)) ↔
      (∀ reply, ¬ node.RepliesWithin connector.deadline reply) ∧
        late = method ∧ deadline = connector.deadline := by
  constructor
  · rintro (_ | _ | _ | hlate)
    exact ⟨hlate, rfl, rfl⟩
  · rintro ⟨hlate, rfl, rfl⟩
    exact .missed hlate

/-- There is no other end. -/
theorem Ends.exhaustive {method : Node.Method} {outcome : Except ConnectorError Receipt}
    (h : Ends connector node method outcome) :
    (∃ hash, outcome = .ok ⟨hash⟩) ∨ (∃ answer, outcome = .error (.invalidHash answer)) ∨
      (∃ reason message, outcome = .error (.callFailed method reason message)) ∨
      outcome = .error (.timedOut method connector.deadline) := by
  cases h with
  | accepted _ _ => exact Or.inl ⟨_, rfl⟩
  | rejected _ _ => exact Or.inr (Or.inl ⟨_, rfl⟩)
  | failed _ => exact Or.inr (Or.inr (Or.inl ⟨_, _, rfl⟩))
  | missed _ => exact Or.inr (Or.inr (Or.inr rfl))

/-- A submission that is prepared comes to an outcome exactly when it ends in it. -/
theorem outcome_submit_eq_iff {submission : Submission} (h : request.prepare = .ok submission)
    {outcome : Except ConnectorError Receipt} :
    (connector.submit node request).outcome = outcome ↔
      Ends connector node submission.call.method outcome := by
  have hends := ends_submit connector node h
  constructor
  · rintro rfl
    exact hends
  · intro hother
    exact hends.unique hother

/-- The call of a request that is prepared is the one that the request asks for. -/
theorem dispatches_call {submission : Submission} (h : request.prepare = .ok submission) :
    request.Dispatches submission.call := by
  unfold SendRequest.Dispatches
  cases submission with
  | raw payload =>
    obtain ⟨hsigned, hpayload⟩ := SendRequest.prepare_eq_raw_iff.mp h
    rw [if_pos hsigned]
    exact ⟨rfl, payload, Hex.encode payload, hpayload, Hex.isLowerText_encode payload, rfl⟩
  | unsigned transaction =>
    obtain ⟨hunsigned, htransaction⟩ := SendRequest.prepare_eq_unsigned_iff.mp h
    rw [if_neg (by simp [hunsigned])]
    exact ⟨rfl, transaction, htransaction, rfl⟩

/-- **From end to end.** A request that cannot be prepared fails with the cause and leads to no
call. Any other leads to exactly one call, which the request alone decides, and its outcome is a
receipt, a refused result, a classified failure or a missed deadline, each exactly when the node's
reply up to the deadline says so. -/
theorem submit_end_to_end (request : SendRequest) :
    match request.prepare with
    | .error cause => ∀ (connector : Connector) (node : Node.Behaviour),
      connector.submit node request = ⟨.error cause, []⟩
    | .ok _ => ∃ call, request.Dispatches call ∧
      ∀ (connector : Connector) (node : Node.Behaviour),
        (connector.submit node request).calls = [call] ∧
        (∀ hash, (connector.submit node request).outcome = .ok ⟨hash⟩ ↔
          ∃ value, node.RepliesWithin connector.deadline (.result value) ∧
            TxHash.ofResult value = .ok hash) ∧
        (∀ answer, (connector.submit node request).outcome = .error (.invalidHash answer) ↔
          ∃ value, node.RepliesWithin connector.deadline (.result value) ∧
            TxHash.ofResult value = .error (.invalidHash answer)) ∧
        (∀ method reason message,
          (connector.submit node request).outcome =
              .error (.callFailed method reason message) ↔
            ∃ cause, node.RepliesWithin connector.deadline (.failure cause) ∧
              method = call.method ∧ message = cause.message ∧
              reason = Reason.classify call.method.name message) ∧
        (∀ method deadline,
          (connector.submit node request).outcome = .error (.timedOut method deadline) ↔
            (∀ reply, ¬ node.RepliesWithin connector.deadline reply) ∧
              method = call.method ∧ deadline = connector.deadline) ∧
        ((∃ hash, (connector.submit node request).outcome = .ok ⟨hash⟩) ∨
          (∃ answer, (connector.submit node request).outcome = .error (.invalidHash answer)) ∨
          (∃ reason message, (connector.submit node request).outcome =
            .error (.callFailed call.method reason message)) ∨
          (connector.submit node request).outcome =
            .error (.timedOut call.method connector.deadline)) := by
  cases h : request.prepare with
  | error cause =>
    intro connector node
    exact submit_of_error connector node h
  | ok submission =>
    refine ⟨submission.call, dispatches_call h, ?_⟩
    intro connector node
    refine ⟨calls_submit_of_ok connector node h, ?_, ?_, ?_, ?_, ?_⟩
    · intro hash
      rw [outcome_submit_eq_iff h, ends_receipt_iff]
    · intro answer
      rw [outcome_submit_eq_iff h, ends_invalidHash_iff]
    · intro method reason message
      rw [outcome_submit_eq_iff h, ends_callFailed_iff]
    · intro method deadline
      rw [outcome_submit_eq_iff h, ends_timedOut_iff]
    · exact (ends_submit connector node h).exhaustive

/-! ## What a failure tells -/

/-- What a text starts with, every longer text starts with. -/
theorem startsWith_append {code text : String} (h : code.toList <+: text.toList) (rest : String) :
    code.toList <+: (text ++ rest).toList := by
  rw [String.toList_append]
  exact h.trans (List.prefix_append _ _)

/-- A failure for the fault of a field is told with the reason for refused input, with a code that
is not the code of a refused result, and in words that start with the code. -/
theorem body_of_fault {error : ConnectorError} (h : request.Fault error) :
    error.reason? = some .invalidInputs ∧
      ∃ code, error.code? = some code ∧ code ≠ .transactionHash ∧
        code.text.toList <+: error.message.toList := by
  cases h with
  | data _ =>
    refine ⟨rfl, .transactionData, rfl, by decide, ?_⟩
    exact startsWith_append (by decide) _
  | sender _ =>
    refine ⟨rfl, .senderAddress, rfl, by decide, ?_⟩
    exact startsWith_append (startsWith_append (startsWith_append (by decide) _) _) _
  | recipient _ _ =>
    refine ⟨rfl, .recipientAddress, rfl, by decide, ?_⟩
    exact startsWith_append (startsWith_append (startsWith_append (by decide) _) _) _
  | gasPrice _ =>
    refine ⟨rfl, .gasPrice, rfl, by decide, ?_⟩
    exact startsWith_append (by decide) _

/-- A reason that is found in an error text is one of the table that was searched. -/
theorem mem_of_classify {keywords : Keywords} {text : String} {reason : Reason}
    (h : keywords.classify text = some reason) : reason ∈ keywords.map Prod.snd := by
  unfold Keywords.classify at h
  obtain ⟨entry, hentry, rfl⟩ := Option.map_eq_some_iff.mp h
  exact List.mem_map_of_mem (List.mem_of_find?_eq_some hentry)

/-- The reason that a caller reads for the error of a submission is empty or one of four. -/
theorem text_classify_mem {submission : Submission} (text : String) :
    Reason.text (Reason.classify submission.call.method.name text) ∈
      ["", "nonce_too_low", "insufficient_funds", "transaction_underpriced",
        "known_transaction"] := by
  have htable : submission.call.method.keywords = Node.Method.submissionKeywords := by
    cases submission <;> rfl
  rw [Reason.classify_name, htable]
  cases hfound : Node.Method.submissionKeywords.classify text with
  | none => decide
  | some reason =>
    have hmem := mem_of_classify hfound
    simp only [Node.Method.submissionKeywords, List.map_cons, List.map_nil, List.mem_cons,
      List.not_mem_nil, or_false] at hmem
    rcases hmem with rfl | rfl | rfl | rfl | rfl <;> decide

/-- What the body of a failure tells about the submission that failed. -/
structure Reveals (connector : Connector) (node : Node.Behaviour) (request : SendRequest)
    (error : ConnectorError) : Prop where
  /-- The body states the failure in its own words. -/
  text_eq : error.body.error = error.message
  /-- The reason is refused input exactly when the node was not called. -/
  reason_iff : Reason.text error.body.reason = "invalid_inputs" ↔
    (connector.submit node request).calls = []
  /-- The code is the code of a field exactly when the node was not called. -/
  code_iff : (∃ code ∈ ["FF23015", "FF23018", "FF23019", "FF23020"],
      error.body.code.map DiagnosticCode.text = some code) ↔
    (connector.submit node request).calls = []
  /-- Then the text starts with the code. -/
  startsWith_code : (connector.submit node request).calls = [] →
    ∃ code, error.body.code.map DiagnosticCode.text = some code ∧
      code.toList <+: error.body.error.toList
  /-- One code stands for a result in time that states no hash. -/
  hash_iff : error.body.code.map DiagnosticCode.text = some "FF23048" ↔
    (connector.submit node request).calls ≠ [] ∧
      ∃ value, node.RepliesWithin connector.deadline (.result value) ∧
        ∀ hash, TxHash.ofResult value ≠ .ok hash
  /-- Such a failure has no reason. -/
  hash_reason : error.body.code.map DiagnosticCode.text = some "FF23048" →
    Reason.text error.body.reason = ""
  /-- Any other failure has no code, comes after exactly one call, and tells what the node or the
  transport said, with a reason on which a retry can depend or with none; after a missed deadline
  with none. -/
  other : Reason.text error.body.reason ≠ "invalid_inputs" →
    error.body.code.map DiagnosticCode.text ≠ some "FF23048" →
    error.body.code = none ∧
      (∃ call, (connector.submit node request).calls = [call]) ∧
      Reason.text error.body.reason ∈ ["", "nonce_too_low", "insufficient_funds",
        "transaction_underpriced", "known_transaction"] ∧
      ((∃ cause, node.RepliesWithin connector.deadline (.failure cause) ∧
          error.body.error = cause.message) ∨
        ((∀ reply, ¬ node.RepliesWithin connector.deadline reply) ∧
          Reason.text error.body.reason = ""))
  /-- The data has a code of its own. -/
  data_iff : error.body.code.map DiagnosticCode.text = some "FF23018" ↔
    ∃ cause, Hex.decode (request.data.getD "") = .error cause ∧ error = .invalidData cause
  /-- So has the sender, -/
  sender_iff : error.body.code.map DiagnosticCode.text = some "FF23019" ↔
    ∃ cause, Address.ofText (request.sender.getD "") = .error cause ∧
      error = .invalidSender (request.sender.getD "") cause
  /-- the recipient, -/
  recipient_iff : error.body.code.map DiagnosticCode.text = some "FF23020" ↔
    ∃ text cause, request.recipient = some text ∧ Address.ofText text = .error cause ∧
      error = .invalidRecipient text cause
  /-- and the gas price. -/
  gasPrice_iff : error.body.code.map DiagnosticCode.text = some "FF23015" ↔
    ∃ cause, GasPrice.resolve request.gasPrice = .error cause ∧ error = .invalidGasPrice cause

/-- The codes that callers see differ. -/
theorem text_code_injective {first second : DiagnosticCode} (h : first.text = second.text) :
    first = second := by
  cases first <;> cases second <;> first | rfl | exact absurd h (by decide)

/-- A failure before the call reveals the field at fault. -/
theorem reveals_of_fault {error : ConnectorError} (h : request.Fault error)
    (hcalls : (connector.submit node request).calls = []) :
    Reveals connector node request error := by
  obtain ⟨hreason, code, hcode, hne, hstarts⟩ := body_of_fault h
  have hreasonText : Reason.text error.body.reason = "invalid_inputs" :=
    congrArg Reason.text hreason
  have hcodeText : error.body.code.map DiagnosticCode.text = some code.text :=
    congrArg (Option.map DiagnosticCode.text) hcode
  have hnoHash : error.body.code.map DiagnosticCode.text ≠ some "FF23048" := by
    rw [hcodeText]
    intro hsame
    exact hne (text_code_injective (Option.some.inj hsame))
  refine
    { text_eq := rfl
      reason_iff := iff_of_true hreasonText hcalls
      code_iff := iff_of_true ⟨code.text, ?_, hcodeText⟩ hcalls
      startsWith_code := fun _ => ⟨code.text, hcodeText, hstarts⟩
      hash_iff := iff_of_false hnoHash fun hcalled => hcalled.1 hcalls
      hash_reason := fun hhash => absurd hhash hnoHash
      other := fun hother => absurd hreasonText hother
      data_iff := ?_
      sender_iff := ?_
      recipient_iff := ?_
      gasPrice_iff := ?_ }
  · cases code with
    | transactionHash => exact absurd rfl hne
    | gasPrice => decide
    | transactionData => decide
    | senderAddress => decide
    | recipientAddress => decide
  · constructor
    · intro hdata
      cases h with
      | data hcause => exact ⟨_, hcause, rfl⟩
      | _ => simp [ConnectorError.body, ConnectorError.code?, DiagnosticCode.text] at hdata
    · rintro ⟨_, _, rfl⟩
      rfl
  · constructor
    · intro hsender
      cases h with
      | sender hcause => exact ⟨_, hcause, rfl⟩
      | _ => simp [ConnectorError.body, ConnectorError.code?, DiagnosticCode.text] at hsender
    · rintro ⟨_, _, rfl⟩
      rfl
  · constructor
    · intro hrecipient
      cases h with
      | recipient set hcause => exact ⟨_, _, set, hcause, rfl⟩
      | _ => simp [ConnectorError.body, ConnectorError.code?, DiagnosticCode.text] at hrecipient
    · rintro ⟨_, _, _, _, rfl⟩
      rfl
  · constructor
    · intro hprice
      cases h with
      | gasPrice hcause => exact ⟨_, hcause, rfl⟩
      | _ => simp [ConnectorError.body, ConnectorError.code?, DiagnosticCode.text] at hprice
    · rintro ⟨_, _, rfl⟩
      rfl

/-- A failure after the call reveals what became of the call. -/
theorem reveals_of_ends {error : ConnectorError} {submission : Submission}
    (hcalls : (connector.submit node request).calls = [submission.call])
    (h : Ends connector node submission.call.method (.error error)) :
    Reveals connector node request error := by
  have hcalled : (connector.submit node request).calls ≠ [] := by simp [hcalls]
  -- The code of a failure after the call is never the code of a field.
  have hfield : ∀ code, error.code? = some code → code = .transactionHash := by
    intro code hcode
    cases h with
    | rejected _ _ =>
      cases hcode
      rfl
    | failed _ => cases hcode
    | missed _ => cases hcode
  have hnoField : ∀ code : DiagnosticCode, code ≠ .transactionHash →
      error.body.code.map DiagnosticCode.text ≠ some code.text := by
    intro code hne hsame
    obtain ⟨found, hfound, htext⟩ := Option.map_eq_some_iff.mp hsame
    exact hne (text_code_injective htext ▸ hfield found hfound)
  have hreason : Reason.text error.body.reason ∈ ["", "nonce_too_low", "insufficient_funds",
      "transaction_underpriced", "known_transaction"] := by
    cases h with
    | rejected _ _ => exact List.mem_cons_self
    | failed _ => exact text_classify_mem _
    | missed _ => exact List.mem_cons_self
  refine
    { text_eq := rfl
      reason_iff := iff_of_false ?_ hcalled
      code_iff := iff_of_false ?_ hcalled
      startsWith_code := fun hnone => absurd hnone hcalled
      hash_iff := ?_
      hash_reason := ?_
      other := ?_
      data_iff := iff_of_false (hnoField .transactionData (by decide)) ?_
      sender_iff := iff_of_false (hnoField .senderAddress (by decide)) ?_
      recipient_iff := iff_of_false (hnoField .recipientAddress (by decide)) ?_
      gasPrice_iff := iff_of_false (hnoField .gasPrice (by decide)) ?_ }
  · intro hinvalid
    rw [hinvalid] at hreason
    exact absurd hreason (by decide)
  · rintro ⟨code, hcode, hsame⟩
    simp only [List.mem_cons, List.not_mem_nil, or_false] at hcode
    rcases hcode with rfl | rfl | rfl | rfl
    · exact hnoField .gasPrice (by decide) hsame
    · exact hnoField .transactionData (by decide) hsame
    · exact hnoField .senderAddress (by decide) hsame
    · exact hnoField .recipientAddress (by decide) hsame
  · constructor
    · intro hhash
      cases h with
      | rejected reply invalid =>
        refine ⟨hcalled, _, reply, ?_⟩
        intro hash hvalid
        rw [invalid] at hvalid
        cases hvalid
      | failed _ => cases hhash
      | missed _ => cases hhash
    · rintro ⟨-, value, reply, hinvalid⟩
      cases h with
      | rejected _ _ => rfl
      | failed other => cases reply.unique other
      | missed late => exact absurd reply (late _)
  · intro hhash
    cases h with
    | rejected _ _ => rfl
    | failed _ => cases hhash
    | missed _ => cases hhash
  · intro _ hnoHash
    cases h with
    | rejected _ _ => exact absurd rfl hnoHash
    | failed reply => exact ⟨rfl, ⟨_, hcalls⟩, hreason, Or.inl ⟨_, reply, rfl⟩⟩
    | missed late => exact ⟨rfl, ⟨_, hcalls⟩, hreason, Or.inr ⟨late, rfl⟩⟩
  · rintro ⟨_, _, rfl⟩
    cases h
  · rintro ⟨_, _, rfl⟩
    cases h
  · rintro ⟨_, _, _, _, rfl⟩
    cases h
  · rintro ⟨_, _, rfl⟩
    cases h

/-- **What a failure tells.** The body of a failed submission tells whether the node was called, and
if it was, what became of the call. -/
theorem failure_reveals_contact {connector : Connector} {node : Node.Behaviour}
    {request : SendRequest} {error : ConnectorError}
    (h : (connector.submit node request).outcome = .error error) :
    Reveals connector node request error := by
  cases hprepare : request.prepare with
  | error cause =>
    have hsubmit := submit_of_error connector node hprepare
    rw [hsubmit] at h
    cases h
    exact reveals_of_fault (SendRequest.fault_of_prepare_eq_error hprepare) (by rw [hsubmit]; rfl)
  | ok submission =>
    exact reveals_of_ends (calls_submit_of_ok connector node hprepare)
      ((outcome_submit_eq_iff hprepare).mp h)

/-- A refusal that arrives at the deadline, with a keyword in its text, is told as such. -/
theorem failure_reveals_contact_at_deadline :
    (submit ⟨⟨30000⟩⟩ (.replies 30000 (.failure (.refused (-32000) "Nonce Too Low: next 5")))
        (SendRequest.signed " 0XaB")).outcome =
      .error (.callFailed .sendRawTransaction (some .nonceTooLow) "Nonce Too Low: next 5") ∧
    Reveals ⟨⟨30000⟩⟩ (.replies 30000 (.failure (.refused (-32000) "Nonce Too Low: next 5")))
      (SendRequest.signed " 0XaB")
      (.callFailed .sendRawTransaction (some .nonceTooLow) "Nonce Too Low: next 5") := by
  have hprepare : (SendRequest.signed " 0XaB").prepare = .ok (.raw [0xab]) :=
    SendRequest.prepare_eq_raw_iff.mpr ⟨rfl, rfl⟩
  have hfailed := (outcome_submit_eq_iff hprepare).mpr
    (.failed ⟨30000, rfl, Nat.le_refl 30000⟩ : Ends ⟨⟨30000⟩⟩
      (.replies 30000 (.failure (.refused (-32000) "Nonce Too Low: next 5"))) .sendRawTransaction
      (.error (.callFailed .sendRawTransaction (some .nonceTooLow) "Nonce Too Low: next 5")))
  exact ⟨hfailed, failure_reveals_contact hfailed⟩

end Connector

end TxGateway
