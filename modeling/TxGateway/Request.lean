import TxGateway.GasPrice
import TxGateway.Json.Record
import TxGateway.Json.Printer
/-!
# Submission requests

A request to submit a transaction, as a transaction manager sends it, with its JSON form. Reading
decides the types and the numbers; the addresses, the data and the gas price stay as they were
given.
-/

namespace TxGateway

/-- The header of a request. -/
structure Header where
  version : String
  id : String
  kind : String
deriving DecidableEq, Repr

/-- A request to submit a transaction. -/
structure SendRequest where
  header : Option Header
  sender : Option String
  recipient : Option String
  gas : Option GasLimit
  nonce : Option Quantity
  value : Option Quantity
  data : Option String
  gasPrice : Option Json
  preSigned : Bool

open Json

namespace Header

/-- A header of empty texts. -/
def empty : Header := ⟨"", "", ""⟩

/-- The JSON form of a header: all members may be missing. -/
def layout : Layout Header where
  name := "RequestHeader"
  fields := [
    .of "version" .optional Reader.text fun text header => { header with version := text },
    .of "id" .optional Reader.text fun text header => { header with id := text },
    .of "type" .optional Reader.text fun text header => { header with kind := text }]
  blank := empty

/-- Reads a header. -/
def read : Reader Header := layout.read

/-- A header as a JSON value. -/
def toJson (header : Header) : Json :=
  .object [("version", .string header.version), ("id", .string header.id),
    ("type", .string header.kind)]

end Header

namespace SendRequest

/-- A request that sets nothing. -/
def empty : SendRequest :=
  { header := none, sender := none, recipient := none, gas := none, nonce := none, value := none,
    data := none, gasPrice := none, preSigned := false }

/-- The quantity that a JSON value denotes. -/
def quantityRule (value : Json) : Except Mismatch Quantity :=
  (Quantity.ofJson value).mapError fun cause => .refused cause.message

/-- The gas limit that a JSON value denotes. -/
def gasRule (value : Json) : Except Mismatch GasLimit := do
  let quantity ← quantityRule value
  match GasLimit.ofQuantity? quantity with
  | some gas => return gas
  | none =>
    throw (.refused ("gas limit " ++ quantity.decimalText ++ " does not fit in 64 bits"))

/-- The JSON form of a request: all members may be missing, and only the last may not be `null`. -/
def layout : Layout SendRequest where
  name := "TransactionSendRequest"
  fields := [
    .of "ffcapi" .optional (.optional Header.read) fun header request =>
      { request with header := header },
    .of "from" .optional (.optional .text) fun sender request => { request with sender := sender },
    .of "to" .optional (.optional .text) fun recipient request =>
      { request with recipient := recipient },
    .of "gas" .optional (.optional (.judged .value gasRule)) fun gas request =>
      { request with gas := gas },
    .of "nonce" .optional (.optional (.judged .value quantityRule)) fun nonce request =>
      { request with nonce := nonce },
    .of "value" .optional (.optional (.judged .value quantityRule)) fun value request =>
      { request with value := value },
    .of "transactionData" .optional (.optional .text) fun data request =>
      { request with data := data },
    .of "gasPrice" .optional (.optional .value) fun gasPrice request =>
      { request with gasPrice := gasPrice },
    .of "preSigned" .optional .flag fun preSigned request =>
      { request with preSigned := preSigned }]
  blank := empty

/-- Reads a request. -/
def read : Reader SendRequest := layout.read

/-- The request that a JSON text denotes. -/
def parse (text : String) : Except ReadError SendRequest := read.parse text

/-- The identifier by which the transaction manager knows the request, if it gave one. -/
def id (request : SendRequest) : String :=
  match request.header with
  | some header => header.id
  | none => ""

/-- A request as a JSON value. Only an unset header is left out. -/
def toJson (request : SendRequest) : Json :=
  .object (
    Json.member? "ffcapi" (request.header.map Header.toJson) ++
    [("from", .ofText? request.sender),
      ("to", .ofText? request.recipient),
      ("gas", (request.gas.map fun gas => Json.number gas.decimalText).getD .null),
      ("nonce", .ofText? (request.nonce.map Quantity.text)),
      ("value", .ofText? (request.value.map Quantity.text)),
      ("transactionData", .ofText? request.data),
      ("gasPrice", request.gasPrice.getD .null),
      ("preSigned", .bool request.preSigned)])

/-- The JSON text of a request. -/
def text (request : SendRequest) : String := request.toJson.compact

end SendRequest

end TxGateway
