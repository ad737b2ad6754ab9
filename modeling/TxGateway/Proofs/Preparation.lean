import TxGateway.Submission
import TxGateway.Proofs.GasPrice
/-!
# What preparing a request comes to

One fact for each step of preparing a request, and from them what the whole comes to: a payload, a
transaction whose parts are the parts of the request, or the fault of one of four fields.
-/

namespace TxGateway.SendRequest

open Fallible

variable {request : SendRequest}

/-! ## The fields -/

/-- The payload of a signed request is what its data denotes. -/
theorem payload_eq_ok_iff {payload : Bytes} :
    request.payload = .ok payload ↔ Hex.decode (request.data.getD "") = .ok payload :=
  mapError_eq_ok_iff

/-- A signed request has no payload when its data cannot be decoded. -/
theorem payload_eq_error_iff {error : ConnectorError} :
    request.payload = .error error ↔
      ∃ cause, Hex.decode (request.data.getD "") = .error cause ∧ .invalidData cause = error :=
  mapError_eq_error_iff

/-- The data of a request is an optional content. -/
theorem data?_eq (request : SendRequest) :
    request.data? = optionally Hex.decode (fun _ => .invalidData) request.data := by
  unfold data?
  cases request.data <;> rfl

/-- The data of a request is what its text denotes, if it has one. -/
theorem data?_eq_ok_iff {data : Option Bytes} :
    request.data? = .ok data ↔
      Option.Rel (fun text bytes => Hex.decode text = .ok bytes) request.data data := by
  rw [data?_eq, optionally_eq_ok_iff]

/-- The data of a request is at fault when its text cannot be decoded. -/
theorem data?_eq_error_iff {error : ConnectorError} :
    request.data? = .error error ↔
      ∃ text cause, request.data = some text ∧ Hex.decode text = .error cause ∧
        .invalidData cause = error := by
  rw [data?_eq, optionally_eq_error_iff]

/-- The sender of a request is the address that its text denotes. -/
theorem senderAddress_eq_ok_iff {sender : Address} :
    request.senderAddress = .ok sender ↔ Address.ofText (request.sender.getD "") = .ok sender :=
  mapError_eq_ok_iff

/-- The sender of a request is at fault when its text is no address. -/
theorem senderAddress_eq_error_iff {error : ConnectorError} :
    request.senderAddress = .error error ↔
      ∃ cause, Address.ofText (request.sender.getD "") = .error cause ∧
        .invalidSender (request.sender.getD "") cause = error :=
  mapError_eq_error_iff

/-- The recipient of a request is an optional content. -/
theorem recipientAddress?_eq (request : SendRequest) :
    request.recipientAddress? =
      optionally Address.ofText .invalidRecipient request.recipient := by
  unfold recipientAddress?
  cases request.recipient <;> rfl

/-- The recipient of a request is the address that its text denotes, if it has one. -/
theorem recipientAddress?_eq_ok_iff {recipient : Option Address} :
    request.recipientAddress? = .ok recipient ↔
      Option.Rel (fun text address => Address.ofText text = .ok address)
        request.recipient recipient := by
  rw [recipientAddress?_eq, optionally_eq_ok_iff]

/-- The recipient of a request is at fault when it has one that is no address. -/
theorem recipientAddress?_eq_error_iff {error : ConnectorError} :
    request.recipientAddress? = .error error ↔
      ∃ text cause, request.recipient = some text ∧ Address.ofText text = .error cause ∧
        .invalidRecipient text cause = error := by
  rw [recipientAddress?_eq, optionally_eq_error_iff]

/-- The fee of a request is the one that its gas price asks for. -/
theorem fee?_eq_ok_iff {fee : Option Fee} :
    request.fee? = .ok fee ↔ GasPrice.Asks request.gasPrice fee := by
  unfold fee?
  simp only [map_eq_ok_iff, mapError_eq_ok_iff, GasPrice.resolve_eq_ok_iff, GasPrice.asks_iff]

/-- The fee of a request is at fault when its gas price is no offer. -/
theorem fee?_eq_error_iff {error : ConnectorError} :
    request.fee? = .error error ↔
      ∃ cause, GasPrice.resolve request.gasPrice = .error cause ∧
        .invalidGasPrice cause = error := by
  unfold fee?
  rw [map_eq_error_iff, mapError_eq_error_iff]

/-! ## The whole -/

/-- A transaction is the transaction of a request when its parts are the parts of the request. -/
theorem transaction_eq_ok_iff {transaction : Transaction} :
    request.transaction = .ok transaction ↔
      request.data? = .ok transaction.data ∧
      request.senderAddress = .ok transaction.sender ∧
      request.recipientAddress? = .ok transaction.recipient ∧
      request.fee? = .ok transaction.fee ∧
      transaction.gas = request.gas ∧
      transaction.nonce = request.nonce ∧
      transaction.value = request.value := by
  simp only [SendRequest.transaction, bind_eq_ok_iff]
  constructor
  · rintro ⟨data, hdata, sender, hsender, recipient, hrecipient, fee, hfee, h⟩
    cases h
    exact ⟨hdata, hsender, hrecipient, hfee, rfl, rfl, rfl⟩
  · rintro ⟨hdata, hsender, hrecipient, hfee, hgas, hnonce, hvalue⟩
    refine ⟨_, hdata, _, hsender, _, hrecipient, _, hfee, ?_⟩
    rw [← hgas, ← hnonce, ← hvalue]
    rfl

/-- A request that is signed already is prepared from its payload. -/
theorem prepare_of_preSigned (h : request.preSigned = true) :
    request.prepare = request.payload.map .raw := if_pos h

/-- A request that the node is to sign is prepared from its transaction. -/
theorem prepare_of_not_preSigned (h : request.preSigned = false) :
    request.prepare = request.transaction.map .unsigned := by
  rw [prepare, h]
  rfl

/-- A payload is submitted exactly for a signed request whose data denotes it. -/
theorem prepare_eq_raw_iff {payload : Bytes} :
    request.prepare = .ok (.raw payload) ↔
      request.preSigned = true ∧ Hex.decode (request.data.getD "") = .ok payload := by
  cases hsigned : request.preSigned with
  | true =>
    rw [prepare_of_preSigned hsigned, map_eq_ok_iff]
    constructor
    · rintro ⟨payload, hpayload, h⟩
      cases h
      exact ⟨rfl, payload_eq_ok_iff.mp hpayload⟩
    · rintro ⟨-, hpayload⟩
      exact ⟨payload, payload_eq_ok_iff.mpr hpayload, rfl⟩
  | false =>
    rw [prepare_of_not_preSigned hsigned, map_eq_ok_iff]
    constructor
    · rintro ⟨transaction, -, h⟩
      cases h
    · rintro ⟨h, -⟩
      cases h

/-- A transaction is submitted exactly for a request that the node is to sign and whose transaction
it is. -/
theorem prepare_eq_unsigned_iff {transaction : Transaction} :
    request.prepare = .ok (.unsigned transaction) ↔
      request.preSigned = false ∧ request.transaction = .ok transaction := by
  cases hsigned : request.preSigned with
  | true =>
    rw [prepare_of_preSigned hsigned, map_eq_ok_iff]
    constructor
    · rintro ⟨payload, -, h⟩
      cases h
    · rintro ⟨h, -⟩
      cases h
  | false =>
    rw [prepare_of_not_preSigned hsigned, map_eq_ok_iff]
    constructor
    · rintro ⟨transaction, htransaction, h⟩
      cases h
      exact ⟨rfl, htransaction⟩
    · rintro ⟨-, htransaction⟩
      exact ⟨transaction, htransaction, rfl⟩

/-- A signed request that sets nothing but its data. -/
def signed (text : String) : SendRequest :=
  { SendRequest.empty with data := some text, preSigned := true }

/-- The fault of a field for which a request is refused, with the field's own cause. -/
inductive Fault (request : SendRequest) : ConnectorError → Prop
  | data {cause : HexError} (h : Hex.decode (request.data.getD "") = .error cause) :
      Fault request (.invalidData cause)
  | sender {cause : HexError} (h : Address.ofText (request.sender.getD "") = .error cause) :
      Fault request (.invalidSender (request.sender.getD "") cause)
  | recipient {text : String} {cause : HexError} (set : request.recipient = some text)
      (h : Address.ofText text = .error cause) :
      Fault request (.invalidRecipient text cause)
  | gasPrice {cause : GasPriceError} (h : GasPrice.resolve request.gasPrice = .error cause) :
      Fault request (.invalidGasPrice cause)

/-- A request is refused only for the fault of one of its fields. -/
theorem fault_of_prepare_eq_error {error : ConnectorError} (h : request.prepare = .error error) :
    Fault request error := by
  cases hsigned : request.preSigned with
  | true =>
    rw [prepare_of_preSigned hsigned, map_eq_error_iff, payload_eq_error_iff] at h
    obtain ⟨cause, hcause, rfl⟩ := h
    exact .data hcause
  | false =>
    rw [prepare_of_not_preSigned hsigned, map_eq_error_iff] at h
    simp only [SendRequest.transaction, bind_eq_error_iff] at h
    rcases h with h | ⟨-, -, h | ⟨-, -, h | ⟨-, -, h | ⟨-, -, ⟨⟩⟩⟩⟩⟩
    · obtain ⟨text, cause, htext, hcause, rfl⟩ := data?_eq_error_iff.mp h
      refine .data ?_
      rw [htext]
      exact hcause
    · obtain ⟨cause, hcause, rfl⟩ := senderAddress_eq_error_iff.mp h
      exact .sender hcause
    · obtain ⟨text, cause, hset, hcause, rfl⟩ := recipientAddress?_eq_error_iff.mp h
      exact .recipient hset hcause
    · obtain ⟨cause, hcause, rfl⟩ := fee?_eq_error_iff.mp h
      exact .gasPrice hcause

end TxGateway.SendRequest
