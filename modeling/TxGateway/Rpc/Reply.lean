import TxGateway.Rpc.Params
import TxGateway.Connector
/-!
# JSON-RPC replies

The replies of the gateway: each carries the identifier of its request, and either a result or an
error with a code, a message and sometimes data.
-/

namespace TxGateway.Rpc

/-- Why a request has no result. -/
inductive RpcError where
  | unparseable
  | invalidRequest
  | unknownMethod
  | invalidParams (cause : ParamsError)
  | failed (cause : ConnectorError)
deriving DecidableEq, Repr

/-- What an error carries besides its message. -/
inductive ErrorData where
  | text (words : String)
  | body (told : ErrorBody)
deriving DecidableEq, Repr

namespace RpcError

/-- The code of an error. -/
def code : RpcError → Int
  | unparseable => -32700
  | invalidRequest => -32600
  | unknownMethod => -32601
  | invalidParams _ => -32602
  | failed _ => -32603

/-- The message of an error; a failure of the connector speaks for itself. -/
def message : RpcError → String
  | unparseable => "Parse error"
  | invalidRequest => "Invalid request"
  | unknownMethod => "Method not found"
  | invalidParams _ => "Invalid params"
  | failed cause => cause.message

/-- The data of an error, if it has any. -/
def data? : RpcError → Option ErrorData
  | invalidParams cause => some (.text cause.message)
  | failed cause => some (.body cause.body)
  | _ => none

end RpcError

/-- The data of an error as a JSON value. -/
def ErrorData.toJson : ErrorData → Json
  | text words => .string words
  | body told => told.toJson

/-- An error as a JSON value. -/
def RpcError.toJson (error : RpcError) : Json :=
  .object (
    [("code", .number (Digits.signedText error.code)), ("message", .string error.message)] ++
    Json.member? "data" (error.data?.map ErrorData.toJson))

/-- What a request comes to. -/
inductive Outcome where
  | receipt (accepted : Receipt)
  | liveness (state : Liveness)
  | readiness (state : Readiness)
  | error (cause : RpcError)

/-- A reply. -/
structure Reply where
  id : Id
  outcome : Outcome

/-- The result of a request, if it has one. -/
def Outcome.result? : Outcome → Option Json
  | receipt accepted => some accepted.toJson
  | liveness state => some state.toJson
  | readiness state => some state.toJson
  | error _ => none

/-- The error of a request, if it has one. -/
def Outcome.error? : Outcome → Option RpcError
  | error cause => some cause
  | _ => none

/-- A reply as a JSON value: version, then result or error, then identifier. -/
def Reply.toJson (reply : Reply) : Json :=
  .object (
    [("jsonrpc", .string "2.0")] ++
    Json.member? "result" reply.outcome.result? ++
    Json.member? "error" (reply.outcome.error?.map RpcError.toJson) ++
    [("id", reply.id.toJson)])

end TxGateway.Rpc
