import TxGateway.Rpc.Service
import TxGateway.Proofs.Rpc.Calls
import TxGateway.Proofs.Rpc.Params
import TxGateway.Proofs.Submission
/-!
# The shape of replies

`Answers` lists the five ways in which a request is answered. From it follows the shape of the reply
as it is sent (`Shape`): which requests have a result and which an error with which code, and how
many calls of the node each of them leads to.

* `answers_answer` : every request is answered in one of the five ways;
* `reply_has_shape` : so every request whose envelope can be read has a reply of this shape, and a
  text without an envelope leads to no call.
-/

namespace TxGateway.Rpc

open Json Fallible

/-! ## Ways to answer -/

/-- The methods by name. -/
def methodNames : List String := ["send_transaction", "is_live", "is_ready"]

/-- How a request is answered. -/
inductive Answers (connector : Connector) (node : Node.Behaviour) (envelope : Envelope) :
    Exchange Reply → Prop
  /-- There is no such method. -/
  | unknown (method : envelope.method ∉ methodNames) :
      Answers connector node envelope (.silent ⟨envelope.id, .error .unknownMethod⟩)
  /-- The gateway runs. -/
  | alive (method : envelope.method = "is_live") :
      Answers connector node envelope (.silent ⟨envelope.id, .liveness TxGateway.liveness⟩)
  /-- The node was asked whether it is ready. -/
  | probed {state : Readiness} (method : envelope.method = "is_ready") :
      Answers connector node envelope ⟨⟨envelope.id, .readiness state⟩, [Connector.probe]⟩
  /-- The parameters yield no submission request. -/
  | refused {cause : ParamsError} (method : envelope.method = "send_transaction")
      (params : ∀ request, ¬ Yields envelope.params request) :
      Answers connector node envelope (.silent ⟨envelope.id, .error (.invalidParams cause)⟩)
  /-- The request was submitted, and the connector decided. -/
  | submitted {request : SendRequest} (method : envelope.method = "send_transaction")
      (params : Yields envelope.params request) :
      Answers connector node envelope
        ((connector.submit node request).map fun outcome => ⟨envelope.id, .ofSubmission outcome⟩)

/-- A name without method is none of the three. -/
theorem not_mem_methodNames {name : String} (h : ServiceMethod.ofName? name = none) :
    name ∉ methodNames := by
  intro hname
  simp only [methodNames, List.mem_cons, List.not_mem_nil, or_false] at hname
  rcases hname with rfl | rfl | rfl <;> cases h

/-- A method is found under its own name only. -/
theorem name_of_ofName? {name : String} {method : ServiceMethod}
    (h : ServiceMethod.ofName? name = some method) : name = method.name := by
  unfold ServiceMethod.ofName? at h
  have hfound := List.find?_some h
  exact (beq_iff_eq.mp hfound).symm

/-- A request whose identifier is one that a request can carry, and whose parameters, if it has some,
are well formed. -/
structure Envelope.WellFormed (envelope : Envelope) : Prop where
  id : envelope.id.Usable
  params : ∀ outline, envelope.params = some outline → outline.skip = .ok ()

/-- The fields of a request leave it well formed. -/
theorem wellFormed_of_field {field : Json.Field Envelope} (hfield : field ∈ Envelope.layout.fields)
    ⦃depth : Nat⦄ ⦃value : Outline⦄ ⦃change : Envelope → Envelope⦄
    (hchange : field.read depth value = .ok change) (envelope : Envelope)
    (h : envelope.WellFormed) : (change envelope).WellFormed := by
  simp only [Envelope.layout, List.mem_cons, List.not_mem_nil, or_false] at hfield
  rcases hfield with rfl | rfl | rfl | rfl
  · obtain ⟨_, -, rfl⟩ := map_eq_ok_iff.mp hchange
    exact h
  · obtain ⟨id, hid, rfl⟩ := map_eq_ok_iff.mp hchange
    exact ⟨Id.usable_of_read hid, h.params⟩
  · obtain ⟨_, -, rfl⟩ := map_eq_ok_iff.mp hchange
    exact ⟨h.id, h.params⟩
  · obtain ⟨params, hparams, rfl⟩ := map_eq_ok_iff.mp hchange
    refine ⟨h.id, ?_⟩
    intro outline houtline
    obtain rfl : params = some outline := houtline
    obtain ⟨-, hwritten⟩ := Reader.optional_eq_some_iff.mp hparams
    obtain ⟨⟨⟩, hskip, hsame⟩ := bind_eq_ok_iff.mp hwritten
    cases hsame
    exact mapError_eq_ok_iff.mp hskip

/-- A request that was read is well formed. -/
theorem wellFormed_of_parse {text : String} {envelope : Envelope}
    (h : Envelope.read.parse text = .ok envelope) : envelope.WellFormed := by
  obtain ⟨found, hread, h⟩ := bind_eq_ok_iff.mp h
  have hblank : Envelope.layout.blank.WellFormed := by
    refine ⟨trivial, ?_⟩
    intro outline houtline
    cases houtline
  have hfound : found.WellFormed :=
    Layout.read_preserves (fun _ hfield => wellFormed_of_field hfield) hblank hread
  split at h
  · cases h
  · cases h
    exact hfound

/-- A well-formed request is answered in one of the five ways. -/
theorem answers_answer (connector : Connector) (node : Node.Behaviour) {envelope : Envelope}
    (h : envelope.WellFormed) :
    Answers connector node envelope (answer connector node envelope) := by
  unfold answer
  cases hmethod : ServiceMethod.ofName? envelope.method with
  | none => exact .unknown (not_mem_methodNames hmethod)
  | some method =>
    have hname := name_of_ofName? hmethod
    cases method with
    | isLive => exact .alive hname
    | isReady =>
      show Answers connector node envelope
        ⟨⟨envelope.id, .ofReadiness (connector.readiness node).outcome⟩, [Connector.probe]⟩
      cases (connector.readiness node).outcome <;> exact .probed hname
    | sendTransaction =>
      cases hparams : readParams envelope.params with
      | ok request =>
        simp only [runMethod, hparams]
        exact .submitted hname ((readParams_eq_ok_iff h.params).mp hparams)
      | error cause =>
        simp only [runMethod, hparams]
        refine .refused hname ?_
        intro request hyields
        rw [(readParams_eq_ok_iff h.params).mpr hyields] at hparams
        cases hparams

/-! ## Replies as they are sent -/

/-- The member of an object, if the value is an object that has it. -/
def memberOf? (name : String) : Json → Option Json
  | .object members => Json.find? name members
  | _ => none

/-- A member of the error of a reply. -/
def errorMember? (name : String) (reply : Json) : Option Json :=
  (memberOf? "error" reply).bind (memberOf? name)

/-- A member of the data of the error of a reply. -/
def dataMember? (name : String) (reply : Json) : Option Json :=
  (errorMember? "data" reply).bind (memberOf? name)

/-- The code of an error as it is written. -/
def RpcError.codeText : RpcError → String
  | unparseable => "-32700"
  | invalidRequest => "-32600"
  | unknownMethod => "-32601"
  | invalidParams _ => "-32602"
  | failed _ => "-32603"

/-- The code of an error is written in decimal digits. -/
theorem RpcError.signedText_code (error : RpcError) :
    Digits.signedText error.code = error.codeText := by
  cases error with
  | unparseable => decide +kernel
  | invalidRequest => decide +kernel
  | unknownMethod => decide +kernel
  | invalidParams cause =>
    show Digits.signedText (-32602) = "-32602"
    decide +kernel
  | failed cause =>
    show Digits.signedText (-32603) = "-32603"
    decide +kernel

/-- A reply is sent with its identifier. -/
theorem memberOf?_id (reply : Reply) : memberOf? "id" reply.toJson = some reply.id.toJson := by
  obtain ⟨id, outcome⟩ := reply
  cases outcome <;> rfl

section

variable {id : Id} {outcome : Outcome}

/-- A result is sent as the result, -/
theorem memberOf?_result {result : Json} (h : outcome.result? = some result) :
    memberOf? "result" (Reply.toJson ⟨id, outcome⟩) = some result := by
  cases outcome with
  | error cause => cases h
  | receipt | liveness | readiness =>
    cases h
    rfl

/-- and without error. -/
theorem memberOf?_error_of_result {result : Json} (h : outcome.result? = some result) :
    memberOf? "error" (Reply.toJson ⟨id, outcome⟩) = none := by
  cases outcome with
  | error cause => cases h
  | receipt | liveness | readiness => rfl

/-- An error is sent without result, -/
theorem memberOf?_result_of_error (cause : RpcError) :
    memberOf? "result" (Reply.toJson ⟨id, .error cause⟩) = none := rfl

/-- and as the error, -/
theorem memberOf?_error (cause : RpcError) :
    memberOf? "error" (Reply.toJson ⟨id, .error cause⟩) = some cause.toJson := rfl

/-- with its code, -/
theorem errorMember?_code (cause : RpcError) :
    errorMember? "code" (Reply.toJson ⟨id, .error cause⟩) = some (.number cause.codeText) := by
  rw [← RpcError.signedText_code]
  rfl

/-- its message, -/
theorem errorMember?_message (cause : RpcError) :
    errorMember? "message" (Reply.toJson ⟨id, .error cause⟩) = some (.string cause.message) := rfl

/-- and, after a failure of the connector, the text of the failure -/
theorem dataMember?_error (failure : ConnectorError) :
    dataMember? "error" (Reply.toJson ⟨id, .error (.failed failure)⟩) =
      some (.string failure.message) := rfl

/-- and its reason. -/
theorem dataMember?_reason (failure : ConnectorError) :
    dataMember? "reason" (Reply.toJson ⟨id, .error (.failed failure)⟩) =
      some (.string (Reason.text failure.body.reason)) := rfl

end

/-! ## The shape of a reply -/

/-- What a reply looks like as it is sent, and how many calls of the node came before it. -/
structure Shape (connector : Connector) (node : Node.Behaviour) (envelope : Envelope) (reply : Json)
    (calls : List Node.Call) : Prop where
  /-- The reply carries the identifier of the request. -/
  id_eq : memberOf? "id" reply = some envelope.id.toJson
  /-- The identifier is read back. -/
  id_read : ∃ member, memberOf? "id" reply = some member ∧
    ∀ depth, Id.read depth member.outline = .ok envelope.id
  /-- It has exactly one of result and error. -/
  result_iff : (∃ result, memberOf? "result" reply = some result) ↔
    ¬ ∃ error, memberOf? "error" reply = some error
  /-- An error has one of three codes. -/
  code_mem : (∃ error, memberOf? "error" reply = some error) →
    ∃ code ∈ ["-32601", "-32602", "-32603"], errorMember? "code" reply = some (.number code)
  /-- One is for a name that is no method, -/
  unknown_iff : errorMember? "code" reply = some (.number "-32601") ↔
    envelope.method ∉ methodNames
  /-- one for a submission whose parameters yield no request, -/
  refused_iff : errorMember? "code" reply = some (.number "-32602") ↔
    envelope.method = "send_transaction" ∧ ∀ request, ¬ Yields envelope.params request
  /-- and one for a submission that failed. -/
  failed_iff : errorMember? "code" reply = some (.number "-32603") ↔
    envelope.method = "send_transaction" ∧ ∃ request failure, Yields envelope.params request ∧
      (connector.submit node request).outcome = .error failure
  /-- Then the message is the text of the failure. -/
  message_eq : errorMember? "code" reply = some (.number "-32603") →
    ∃ words, errorMember? "message" reply = some (.string words) ∧
      dataMember? "error" reply = some (.string words)
  /-- Both probes have a result. -/
  probe_result : envelope.method = "is_live" ∨ envelope.method = "is_ready" →
    ∃ result, memberOf? "result" reply = some result
  /-- The node is not called to say whether the gateway runs, and not for a request that is refused.
  -/
  calls_eq_nil_iff : calls = [] ↔
    envelope.method = "is_live" ∨ errorMember? "code" reply = some (.number "-32601") ∨
      errorMember? "code" reply = some (.number "-32602") ∨
      (errorMember? "code" reply = some (.number "-32603") ∧
        dataMember? "reason" reply = some (.string "invalid_inputs"))
  /-- It is called once for any other. -/
  exists_call : calls ≠ [] → ∃ call, calls = [call]

/-- Parameters yield at most one request. -/
theorem Yields.unique {params : Option Outline} {first second : SendRequest}
    (hfirst : Yields params first) (hsecond : Yields params second) : first = second := by
  cases hfirst with
  | first h =>
    obtain ⟨h'⟩ := hsecond
    rw [h] at h'
    exact Except.ok.inj h'
  | named _ only h =>
    obtain _ | ⟨-, only', h'⟩ := hsecond
    rw [only] at only'
    cases only'
    rw [h] at h'
    exact Except.ok.inj h'

variable {connector : Connector} {node : Node.Behaviour} {envelope : Envelope}

/-- A failed submission was not sent exactly when the input is the reason. -/
theorem reason_eq_invalidInputs_iff {request : SendRequest} {failure : ConnectorError}
    (h : (connector.submit node request).outcome = .error failure) :
    Reason.text failure.body.reason = "invalid_inputs" ↔
      (connector.submit node request).calls = [] := by
  cases hprepare : request.prepare with
  | error cause =>
    have hsubmit := connector.submit_of_error node hprepare
    rw [hsubmit] at h
    cases h
    have hfault := SendRequest.fault_of_prepare_eq_error hprepare
    exact (Connector.reveals_of_fault hfault (by rw [hsubmit]; rfl)).reason_iff
  | ok submission =>
    have hends := (Connector.outcome_submit_eq_iff hprepare).mp h
    exact (Connector.reveals_of_ends (connector.calls_submit_of_ok node hprepare) hends).reason_iff

/-- A submission makes at most one call. -/
theorem exists_call_of_submit {request : SendRequest}
    (h : (connector.submit node request).calls ≠ []) :
    ∃ call, (connector.submit node request).calls = [call] := by
  cases hprepare : request.prepare with
  | error cause =>
    rw [connector.submit_of_error node hprepare] at h
    exact absurd rfl h
  | ok submission => exact ⟨_, connector.calls_submit_of_ok node hprepare⟩

/-- A submission that succeeds makes a call. -/
theorem calls_ne_nil_of_receipt {request : SendRequest} {receipt : Receipt}
    (h : (connector.submit node request).outcome = .ok receipt) :
    (connector.submit node request).calls ≠ [] := by
  cases hprepare : request.prepare with
  | error cause =>
    rw [connector.submit_of_error node hprepare] at h
    cases h
  | ok submission =>
    rw [connector.calls_submit_of_ok node hprepare]
    exact List.cons_ne_nil _ _

/-- A reply with a result has the shape, if the method is one of the three, a submission has
succeeded, and only the question whether the gateway runs is answered without a call. -/
theorem shape_of_result {outcome : Outcome} {result : Json} {calls : List Node.Call}
    (hid : envelope.id.Usable) (hresult : outcome.result? = some result) (hmethod : envelope.method ∈ methodNames)
    (hsent : envelope.method = "send_transaction" → ∃ request receipt,
      Yields envelope.params request ∧ (connector.submit node request).outcome = .ok receipt)
    (hcalls : calls = [] ↔ envelope.method = "is_live")
    (hcall : calls ≠ [] → ∃ call, calls = [call]) :
    Shape connector node envelope (Reply.toJson ⟨envelope.id, outcome⟩) calls := by
  have hfound := @memberOf?_result envelope.id outcome result hresult
  have hnone := @memberOf?_error_of_result envelope.id outcome result hresult
  have hnoMember : ∀ name, errorMember? name (Reply.toJson ⟨envelope.id, outcome⟩) = none := by
    intro name
    rw [errorMember?, hnone]
    rfl
  refine
    { id_eq := memberOf?_id ⟨envelope.id, outcome⟩
      id_read := ⟨_, memberOf?_id ⟨envelope.id, outcome⟩, Id.read_outline hid⟩
      result_iff := iff_of_true ⟨result, hfound⟩ (by simp [hnone])
      code_mem := by simp [hnone]
      unknown_iff := iff_of_false (by simp [hnoMember]) fun hother => hother hmethod
      refused_iff := iff_of_false (by simp [hnoMember]) ?_
      failed_iff := iff_of_false (by simp [hnoMember]) ?_
      message_eq := by simp [hnoMember]
      probe_result := fun _ => ⟨result, hfound⟩
      calls_eq_nil_iff := by simp [hnoMember, hcalls]
      exists_call := hcall }
  · rintro ⟨hsend, hnone⟩
    obtain ⟨request, -, hyields, -⟩ := hsent hsend
    exact hnone request hyields
  · rintro ⟨hsend, request, failure, hyields, hfailed⟩
    obtain ⟨other, receipt, hother, hok⟩ := hsent hsend
    rw [hother.unique hyields, hfailed] at hok
    cases hok

/-- A reply with an error has the shape, if the code says why there is no result, the method is no
probe, and the code and the reason tell whether there was a call. -/
theorem shape_of_error {cause : RpcError} {calls : List Node.Call} (hid : envelope.id.Usable)
    (hcode : cause.codeText ∈ ["-32601", "-32602", "-32603"])
    (hunknown : cause.codeText = "-32601" ↔ envelope.method ∉ methodNames)
    (hrefused : cause.codeText = "-32602" ↔
      envelope.method = "send_transaction" ∧ ∀ request, ¬ Yields envelope.params request)
    (hfailed : cause.codeText = "-32603" ↔
      envelope.method = "send_transaction" ∧ ∃ request failure, Yields envelope.params request ∧
        (connector.submit node request).outcome = .error failure)
    (hwords : cause.codeText = "-32603" →
      dataMember? "error" (Reply.toJson ⟨envelope.id, .error cause⟩) = some (.string cause.message))
    (hlive : envelope.method ≠ "is_live") (hready : envelope.method ≠ "is_ready")
    (hcalls : calls = [] ↔ cause.codeText = "-32601" ∨ cause.codeText = "-32602" ∨
      (cause.codeText = "-32603" ∧ dataMember? "reason" (Reply.toJson ⟨envelope.id, .error cause⟩) =
        some (.string "invalid_inputs")))
    (hcall : calls ≠ [] → ∃ call, calls = [call]) :
    Shape connector node envelope (Reply.toJson ⟨envelope.id, .error cause⟩) calls := by
  have hfound : ∀ text, errorMember? "code" (Reply.toJson ⟨envelope.id, .error cause⟩) =
      some (.number text) ↔ cause.codeText = text := by
    intro text
    rw [errorMember?_code]
    simp
  exact
    { id_eq := memberOf?_id ⟨envelope.id, .error cause⟩
      id_read := ⟨_, memberOf?_id ⟨envelope.id, .error cause⟩, Id.read_outline hid⟩
      result_iff := by simp [memberOf?_result_of_error, memberOf?_error]
      code_mem := fun _ => ⟨cause.codeText, hcode, errorMember?_code cause⟩
      unknown_iff := by rw [hfound, hunknown]
      refused_iff := by rw [hfound, hrefused]
      failed_iff := by rw [hfound, hfailed]
      message_eq := fun hcode =>
        ⟨cause.message, errorMember?_message cause, hwords ((hfound _).mp hcode)⟩
      probe_result := fun hprobe => absurd hprobe (not_or.mpr ⟨hlive, hready⟩)
      calls_eq_nil_iff := by simp only [hfound, hcalls, hlive, false_or]
      exists_call := hcall }

/-- However a request is answered, the reply has the shape. -/
theorem Answers.shape {exchange : Exchange Reply} (hid : envelope.id.Usable)
    (h : Answers connector node envelope exchange) :
    Shape connector node envelope exchange.outcome.toJson exchange.calls := by
  cases h with
  | unknown method =>
    have hnot : ∀ name ∈ methodNames, envelope.method ≠ name := by
      rintro name hname hsame
      exact method (hsame ▸ hname)
    have hsend : envelope.method ≠ "send_transaction" := hnot _ (by simp [methodNames])
    refine shape_of_error hid (by simp [RpcError.codeText]) ?_ ?_ ?_ ?_
      (hnot _ (by simp [methodNames])) (hnot _ (by simp [methodNames])) ?_ ?_
    · simp [RpcError.codeText, method]
    · simp [RpcError.codeText, hsend]
    · simp [RpcError.codeText, hsend]
    · simp [RpcError.codeText]
    · simp [RpcError.codeText]
    · simp
  | alive method =>
    refine shape_of_result hid rfl ?_ ?_ ?_ ?_
    · simp [methodNames, method]
    · simp [method]
    · simp [method]
    · simp
  | probed method =>
    refine shape_of_result hid rfl ?_ ?_ ?_ ?_
    · simp [methodNames, method]
    · simp [method]
    · simp [method]
    · simp
  | refused method params =>
    refine shape_of_error hid (by simp [RpcError.codeText]) ?_ ?_ ?_ ?_ (by simp [method])
      (by simp [method]) ?_ ?_
    · simp [RpcError.codeText, methodNames, method]
    · simp [RpcError.codeText, method, params]
    · simp [RpcError.codeText, params]
    · simp [RpcError.codeText]
    · simp [RpcError.codeText]
    · simp
  | @submitted request method params =>
    have hmethod : envelope.method ∈ methodNames := by simp [methodNames, method]
    rw [Exchange.outcome_map, Exchange.calls_map]
    cases houtcome : (connector.submit node request).outcome with
    | ok receipt =>
      have hcalled := calls_ne_nil_of_receipt houtcome
      refine shape_of_result hid rfl hmethod (fun _ => ⟨request, receipt, params, houtcome⟩) ?_
        exists_call_of_submit
      simp [hcalled, method]
    | error failure =>
      refine shape_of_error hid (by simp [RpcError.codeText]) ?_ ?_ ?_ ?_ (by simp [method])
        (by simp [method]) ?_ exists_call_of_submit
      · simp [RpcError.codeText, hmethod]
      · simp only [RpcError.codeText]
        exact iff_of_false (by decide) fun hnone => hnone.2 request params
      · exact iff_of_true rfl ⟨method, request, failure, params, houtcome⟩
      · exact fun _ => dataMember?_error failure
      · rw [dataMember?_reason, ← reason_eq_invalidInputs_iff houtcome]
        simp [RpcError.codeText]

/-- **The shape of every reply.** A text without envelope leads to no call and no reply. A request
has one reply, whose identifier, result or error and code say what was asked and what became of it,
and the node is called at most once. -/
theorem reply_has_shape (connector : Connector) (node : Node.Behaviour) (text : String) :
    match Envelope.read.parse text with
    | .error cause => answerText connector node text = ⟨.error cause, []⟩
    | .ok envelope => ∃ reply,
      (answerText connector node text).outcome = .ok reply ∧
        Shape connector node envelope reply.toJson (answerText connector node text).calls := by
  cases henvelope : Envelope.read.parse text with
  | error cause =>
    rw [answerText, henvelope]
    rfl
  | ok envelope =>
    have hwellFormed := wellFormed_of_parse henvelope
    have hanswer := answers_answer connector node hwellFormed
    rw [answerText, henvelope]
    exact ⟨_, rfl, hanswer.shape hwellFormed.id⟩

end TxGateway.Rpc
