import TxGateway.Reason
import TxGateway.Json.Record
import TxGateway.Json.Word
/-!
# The node

The Ethereum node as the gateway sees it: it is called by a method and parameters, and it replies
with a result or fails, after some time or never. What a call reaches is a behaviour; a call by
itself decides nothing.
-/

namespace TxGateway.Node

open Json

/-- A call of the node. -/
structure Call where
  method : Method
  params : Json

/-- Why a call brought no result. -/
inductive Failure where
  /-- The node answered with an error object. -/
  | refused (code : Int) (message : String)
  /-- No answer came. -/
  | transport (message : String)
deriving DecidableEq, Repr

/-- What the node answers to a call. -/
inductive Reply where
  | result (value : Json)
  | failure (cause : Failure)

/-- What the node does when it is called: it replies after a number of milliseconds, or never. -/
inductive Behaviour where
  | replies (delay : Nat) (reply : Reply)
  | silent

namespace Failure

/-- The text of a failure, as the node or the transport worded it. -/
def message : Failure → String
  | refused _ message => message
  | transport message => message

/-- A failure as it is shown to a caller: its text alone, without the code. -/
def shown : Failure → String
  | refused _ message => message
  | transport message => message

/-- The error code, if the node gave one. -/
def code? : Failure → Option Int
  | refused code _ => some code
  | transport _ => none

/-- What is shown of a failure is the text in which keywords are looked for. -/
theorem shown_eq_message (cause : Failure) : cause.shown = cause.message := by
  cases cause <;> rfl

end Failure

/-! ## Transport -/

/-- The error object with which a node answers. -/
structure ErrorObject where
  code : Int
  message : String
deriving DecidableEq, Repr

/-- What can go wrong between the gateway and a node. -/
inductive Trouble where
  | errorObject (answer : ErrorObject)
  | nullResponse
  | localUsage (message : String)
  | http (status : Nat) (body : String)
  | custom (message : String)
  | connectionTaskStopped
  | subscriptionsUnavailable
deriving DecidableEq, Repr

namespace Trouble

/-- The failure that trouble amounts to. Only an error object of the node has a code. -/
def failure : Trouble → Failure
  | errorObject answer => .refused answer.code answer.message
  | nullResponse =>
    .transport "server returned a null response when a non-null response was expected"
  | localUsage message => .transport ("local usage error: " ++ message)
  | http status body =>
    .transport (
      if body.isEmpty then "HTTP error " ++ Digits.decimalText status ++ " with empty body"
      else "HTTP error " ++ Digits.decimalText status ++ " with body: " ++ body)
  | custom message => .transport message
  | connectionTaskStopped => .transport "backend connection task has stopped"
  | subscriptionsUnavailable => .transport "subscriptions are not available on this provider"

end Trouble

namespace ErrorObject

/-- The members of an error object; what the member `data` holds does not count. -/
def layout : Layout ErrorObject where
  name := "ErrorObject"
  fields := [
    .of "code" .required Reader.signedWord fun code answer => { answer with code := code },
    .of "message" .optional Reader.text fun message answer => { answer with message := message },
    .of "data" .optional Reader.skip fun _ answer => answer]
  blank := ⟨0, ""⟩

/-- Reads an error object. A number that is no machine word counts as an object without members. -/
def read : Reader ErrorObject := fun depth outline =>
  match depth, outline with
  | depth + 1, .object members ending => layout.readObject depth members ending
  | _ + 1, .misnamed _ => .error (.fault .nameExpected)
  | 0, .object _ _ => .error (.fault .tooDeep)
  | 0, .array _ _ _ => .error (.fault .tooDeep)
  | 0, .misnamed _ => .error (.fault .tooDeep)
  | _, .number literal =>
    match Found.ofLiteral literal with
    | .number => layout.readObject 0 [] .closed
    | found => .error (.mismatch (.wrongType found .errorObject))
  | _, outline => Reader.reject .errorObject outline

end ErrorObject

end TxGateway.Node
