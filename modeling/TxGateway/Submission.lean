import TxGateway.Transaction
import TxGateway.Connector.Error
/-!
# Preparing submissions

From a request to what is submitted. The fields are checked in the order data, sender, recipient,
gas price, and the first that is wrong decides the error. Of a request that is signed already only
the data counts.
-/

namespace TxGateway.SendRequest

/-- The bytes of the data, if the request has data. -/
def data? (request : SendRequest) : Except ConnectorError (Option Bytes) :=
  match request.data with
  | some text => ((Hex.decode text).mapError .invalidData).map some
  | none => .ok none

/-- The payload of a request that is signed already; without data it has none. -/
def payload (request : SendRequest) : Except ConnectorError Bytes :=
  (Hex.decode (request.data.getD "")).mapError .invalidData

/-- The sender's address; without one the request is refused. -/
def senderAddress (request : SendRequest) : Except ConnectorError Address :=
  let input := request.sender.getD ""
  (Address.ofText input).mapError (.invalidSender input)

/-- The recipient's address, if the request names one. -/
def recipientAddress? (request : SendRequest) : Except ConnectorError (Option Address) :=
  match request.recipient with
  | some input => ((Address.ofText input).mapError (.invalidRecipient input)).map some
  | none => .ok none

/-- The fee that follows from the offer, if the request makes one. -/
def fee? (request : SendRequest) : Except ConnectorError (Option Fee) :=
  ((GasPrice.resolve request.gasPrice).mapError .invalidGasPrice).map fun offer =>
    offer.map GasPrice.fee

/-- The transaction of a request that the node is to sign. -/
def transaction (request : SendRequest) : Except ConnectorError Transaction := do
  let data ← request.data?
  let sender ← request.senderAddress
  let recipient ← request.recipientAddress?
  let fee ← request.fee?
  return {
    sender, recipient, data, fee
    gas := request.gas
    nonce := request.nonce
    value := request.value }

/-- What is submitted for a request. -/
def prepare (request : SendRequest) : Except ConnectorError Submission :=
  if request.preSigned then request.payload.map .raw else request.transaction.map .unsigned

end TxGateway.SendRequest

namespace TxGateway.Submission

/-- The call of the node that submits. -/
def call : Submission → Node.Call
  | raw payload => ⟨.sendRawTransaction, .array [.string (Hex.encode payload)]⟩
  | unsigned transaction => ⟨.sendTransaction, .array [transaction.toJson]⟩

end TxGateway.Submission
