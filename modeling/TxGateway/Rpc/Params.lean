import TxGateway.Rpc.Envelope
/-!
# Parameters of a submission

How the parameters of a JSON-RPC request give a submission request: as the first item of an array,
or as the member `request` of an object. Further items and members do not count.
-/

namespace TxGateway.Rpc

open Json

/-- Why parameters give no submission request. -/
inductive ParamsError where
  /-- There is no parameter. -/
  | missing
  /-- The parameters are neither an array nor an object, but what is written here. -/
  | misplaced (written : String)
  | unread (cause : ReadError)
deriving DecidableEq, Repr

namespace ParamsError

/-- The cause in words. -/
def message : ParamsError → String
  | missing => "No more params"
  | misplaced written =>
    "Invalid params. Expected one of '[', ']' or ',' but found " ++ Text.quoted written
  | unread cause => cause.message

end ParamsError

/-- A value other than an array or an object, as it is written. -/
def written : Outline → String
  | .null => "null"
  | .bool true => "true"
  | .bool false => "false"
  | .number literal => String.ofList literal
  | .string spelling => String.ofList spelling.text
  | _ => ""

/-- Parameters given by name. -/
def namedLayout : Layout SendRequest where
  name := "ParamsObject"
  fields := [.of "request" .required SendRequest.read fun request _ => request]
  blank := SendRequest.empty

/-- Reads the submission request from parameters. Empty brackets hold no parameter; with white space
between them they are an array whose first item is awaited in vain. -/
def readParams : Option Outline → Except ParamsError SendRequest
  | none => .error .missing
  | some (.array false [] _) => .error .missing
  | some (.array true [] _) => .error (.unread (.fault .valueExpected))
  | some (.array _ (first :: _) _) => (SendRequest.read maxDepth first).mapError .unread
  | some (.object members ending) =>
    (namedLayout.read maxDepth (.object members ending)).mapError .unread
  | some outline => .error (.misplaced (written outline))

end TxGateway.Rpc
