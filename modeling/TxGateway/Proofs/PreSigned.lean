import TxGateway.Proofs.Submission
/-!
# Requests that are signed already

Of a request that is signed already only the data counts: two such requests with the same data are
prepared alike and submitted alike, whatever else they hold. The payload that is sent is the data
itself, trimmed and in lower case, and sending that again sends the same.
-/

namespace TxGateway

open Fallible

namespace SendRequest

/-- Signed requests with the same data are prepared alike. -/
theorem prepare_congr_of_preSigned {first second : SendRequest} (hfirst : first.preSigned = true)
    (hsecond : second.preSigned = true) (hdata : first.data = second.data) :
    first.prepare = second.prepare := by
  rw [prepare_of_preSigned hfirst, prepare_of_preSigned hsecond, payload, payload, hdata]

/-- A signed request is refused only for its data. -/
theorem prepare_eq_error_of_preSigned {request : SendRequest} {error : ConnectorError}
    (hsigned : request.preSigned = true) (h : request.prepare = .error error) :
    ∃ cause, error = .invalidData cause := by
  rw [prepare_of_preSigned hsigned, map_eq_error_iff, payload_eq_error_iff] at h
  obtain ⟨cause, -, rfl⟩ := h
  exact ⟨cause, rfl⟩

/-- A signed request without data is refused. -/
theorem prepare_of_preSigned_of_data_eq_none {request : SendRequest}
    (hsigned : request.preSigned = true) (hdata : request.data = none) :
    request.prepare = .error (.invalidData .missingMarker) := by
  rw [prepare_of_preSigned hsigned, payload, hdata]
  rfl

end SendRequest

namespace Connector

/-- Requests that are prepared alike are submitted alike. -/
theorem submit_congr_of_prepare {first second : SendRequest} (h : first.prepare = second.prepare)
    (connector : Connector) (node : Node.Behaviour) :
    connector.submit node first = connector.submit node second := by
  rw [submit, submit, h]

/-- A signed request whose data can be decoded leads to one call, with the data trimmed and in lower
case. -/
theorem calls_submit_of_preSigned {request : SendRequest} {text : String} {payload : Bytes}
    (hsigned : request.preSigned = true) (hdata : request.data = some text)
    (hdecode : Hex.decode text = .ok payload) (connector : Connector) (node : Node.Behaviour) :
    (connector.submit node request).calls =
      [⟨.sendRawTransaction,
        .array [.string (String.ofList ((Text.trim text.toList).map Char.toLower))]⟩] := by
  have hprepare : request.prepare = .ok (.raw payload) := by
    refine SendRequest.prepare_eq_raw_iff.mpr ⟨hsigned, ?_⟩
    rw [hdata]
    exact hdecode
  rw [calls_submit_of_ok connector node hprepare, ← Hex.encode_of_decode hdecode]
  rfl

/-- **Only the data counts.** Two signed requests with the same data are prepared alike and
submitted alike. They are refused only for their data, and refused without data. If they are
accepted, the data is sent trimmed and in lower case; this denotes the same bytes, and sending it
again sends the same. -/
theorem preSigned_depends_on_data {first second : SendRequest} (hfirst : first.preSigned = true)
    (hsecond : second.preSigned = true) (hdata : first.data = second.data) :
    first.prepare = second.prepare ∧
    (∀ (connector : Connector) (node : Node.Behaviour),
      connector.submit node first = connector.submit node second) ∧
    (∀ error, first.prepare = .error error → ∃ cause, error = .invalidData cause) ∧
    (first.data = none → ∃ cause, first.prepare = .error (.invalidData cause)) ∧
    (∀ submission, first.prepare = .ok submission → ∃ text, first.data = some text ∧
      let sent := String.ofList ((Text.trim text.toList).map Char.toLower)
      Hex.decode sent = Hex.decode text ∧
      (∀ (connector : Connector) (node : Node.Behaviour),
        (connector.submit node first).calls =
            [⟨.sendRawTransaction, .array [.string sent]⟩] ∧
          (connector.submit node second).calls =
            [⟨.sendRawTransaction, .array [.string sent]⟩]) ∧
      (∀ again : SendRequest, again.preSigned = true → again.data = some sent →
        ∀ (connector : Connector) (node : Node.Behaviour),
          (connector.submit node again).calls =
            [⟨.sendRawTransaction, .array [.string sent]⟩])) := by
  have hprepare := SendRequest.prepare_congr_of_preSigned hfirst hsecond hdata
  refine ⟨hprepare, submit_congr_of_prepare hprepare, ?_, ?_, ?_⟩
  · intro error
    exact SendRequest.prepare_eq_error_of_preSigned hfirst
  · intro hnone
    exact ⟨_, SendRequest.prepare_of_preSigned_of_data_eq_none hfirst hnone⟩
  · intro submission hok
    cases htext : first.data with
    | none =>
      rw [SendRequest.prepare_of_preSigned_of_data_eq_none hfirst htext] at hok
      cases hok
    | some text =>
      rw [SendRequest.prepare_of_preSigned hfirst, map_eq_ok_iff] at hok
      obtain ⟨payload, hpayload, -⟩ := hok
      have hdecode : Hex.decode text = .ok payload := by
        have := SendRequest.payload_eq_ok_iff.mp hpayload
        rwa [htext] at this
      -- The text that is sent is the canonical one, so it denotes the payload and is sent again.
      have hsent := Hex.encode_of_decode hdecode
      have hagain : Hex.decode (String.ofList ((Text.trim text.toList).map Char.toLower)) =
          .ok payload := by
        rw [← hsent, Hex.decode_encode]
      refine ⟨text, rfl, hagain.trans hdecode.symm, ?_, ?_⟩
      · intro connector node
        refine ⟨calls_submit_of_preSigned hfirst htext hdecode connector node, ?_⟩
        exact calls_submit_of_preSigned hsecond (hdata ▸ htext) hdecode connector node
      · intro again hsigned hagainData connector node
        have hcalls := calls_submit_of_preSigned hsigned hagainData hagain connector node
        rw [hcalls, ← hsent, ← Hex.encode_of_decode (Hex.decode_encode payload)]

/-- Two signed requests that differ in what does not count, the second with a sender and a gas price
that would be refused: both send the one canonical text. -/
theorem preSigned_depends_on_data_mixed_case :
    (SendRequest.signed " 0XfE\n").prepare = .ok (.raw [0xfe]) ∧
      (SendRequest.signed " 0XfE\n").prepare =
        { SendRequest.signed " 0XfE\n" with
          sender := some "nobody", gasPrice := some (.bool true) }.prepare ∧
      (submit ⟨⟨30000⟩⟩ .silent { SendRequest.signed " 0XfE\n" with
          sender := some "nobody", gasPrice := some (.bool true) }).calls =
        [⟨.sendRawTransaction, .array [.string "0xfe"]⟩] := by
  have hprepared : (SendRequest.signed " 0XfE\n").prepare = .ok (.raw [0xfe]) :=
    SendRequest.prepare_eq_raw_iff.mpr ⟨rfl, rfl⟩
  obtain ⟨hprepare, -, -, -, hsent⟩ := @preSigned_depends_on_data (SendRequest.signed " 0XfE\n")
    { SendRequest.signed " 0XfE\n" with sender := some "nobody", gasPrice := some (.bool true) }
    rfl rfl rfl
  obtain ⟨text, htext, -, hcalls, -⟩ := hsent _ hprepared
  cases htext
  exact ⟨hprepared, hprepare, (hcalls ⟨⟨30000⟩⟩ .silent).2⟩

end Connector

end TxGateway
