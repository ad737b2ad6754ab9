import TxGateway.Duration
import TxGateway.GasPrice
import TxGateway.Node
import TxGateway.Response
/-!
# Failures of the connector

Why a submission or a probe failed, and what a caller is told: a reason on which retries can depend,
a code for what the gateway itself detected, and the text.
-/

namespace TxGateway

/-- Why a submission or a probe failed. -/
inductive ConnectorError where
  | invalidData (cause : HexError)
  | invalidSender (input : String) (cause : HexError)
  | invalidRecipient (input : String) (cause : HexError)
  | invalidGasPrice (cause : GasPriceError)
  /-- The node answered with something other than a hash. -/
  | invalidHash (answer : String)
  /-- The call of the node failed. -/
  | callFailed (method : Node.Method) (reason : Option Reason) (message : String)
  /-- The node did not answer before the deadline. -/
  | timedOut (method : Node.Method) (deadline : Duration)
deriving DecidableEq, Repr

namespace ConnectorError

/-- The failure in words; what the node or the transport said stays as it was. -/
def message : ConnectorError → String
  | invalidData cause => "FF23018: Invalid transaction data: " ++ cause.message
  | invalidSender input cause =>
    "FF23019: Invalid 'from' address '" ++ input ++ "': " ++ cause.message
  | invalidRecipient input cause =>
    "FF23020: Invalid 'to' address '" ++ input ++ "': " ++ cause.message
  | invalidGasPrice cause => "FF23015: Invalid gas price: " ++ cause.message
  | invalidHash answer =>
    "FF23048: Invalid transaction hash returned by node (" ++ answer ++ ")"
  | callFailed _ _ message => message
  | timedOut method deadline => method.name ++ " did not complete within " ++ deadline.text

/-- The reason on which a retry can depend. -/
def reason? : ConnectorError → Option Reason
  | invalidData _ | invalidSender _ _ | invalidRecipient _ _ | invalidGasPrice _ =>
    some .invalidInputs
  | callFailed _ reason _ => reason
  | invalidHash _ | timedOut _ _ => none

/-- The code of a failure that the gateway itself detected. -/
def code? : ConnectorError → Option DiagnosticCode
  | invalidData _ => some .transactionData
  | invalidSender _ _ => some .senderAddress
  | invalidRecipient _ _ => some .recipientAddress
  | invalidGasPrice _ => some .gasPrice
  | invalidHash _ => some .transactionHash
  | callFailed _ _ _ | timedOut _ _ => none

/-- The method whose call failed, if the call itself did. -/
def method? : ConnectorError → Option Node.Method
  | callFailed method _ _ | timedOut method _ => some method
  | _ => none

/-- What the caller is told. -/
def body (error : ConnectorError) : ErrorBody :=
  ⟨error.reason?, error.message, error.code?⟩

end ConnectorError

end TxGateway
