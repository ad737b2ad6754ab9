import TxGateway.Reason
import TxGateway.Hex
import TxGateway.Json.Record
import TxGateway.Json.Word
import TxGateway.Json.Printer
/-!
# Responses

What the gateway answers: the receipt of a submission, the two probes, and the body of a failure,
with their JSON forms.
-/

namespace TxGateway

open Json

/-- The answer to a submission: the hash of the transaction. -/
structure Receipt where
  hash : TxHash
deriving DecidableEq

/-- The answer to the probe whether the gateway runs. -/
structure Liveness where
  up : Bool
deriving DecidableEq, Repr

/-- The answer to the probe whether the node can be reached. -/
structure Readiness where
  ready : Bool
  details : Option Json

/-- Identifies a failure that the gateway itself detected, by the field or answer at fault. -/
inductive DiagnosticCode where
  | gasPrice
  | transactionData
  | senderAddress
  | recipientAddress
  | transactionHash
deriving DecidableEq, Repr

/-- The code as callers see it. -/
def DiagnosticCode.text : DiagnosticCode → String
  | gasPrice => "FF23015"
  | transactionData => "FF23018"
  | senderAddress => "FF23019"
  | recipientAddress => "FF23020"
  | transactionHash => "FF23048"

/-- The body of a failure: the reason if it is known, the text, and the code if the gateway itself
detected the failure. -/
structure ErrorBody where
  reason : Option Reason
  error : String
  code : Option DiagnosticCode
deriving DecidableEq, Repr

/-! ## Writing -/

/-- The name of a reason, or the empty text for an unknown one. -/
def Reason.text : Option Reason → String
  | some reason => reason.name
  | none => ""

/-- A reason as a JSON value: its name. -/
def Reason.toJson (reason : Reason) : Json := .string reason.name

/-- A receipt as a JSON value. -/
def Receipt.toJson (receipt : Receipt) : Json :=
  .object [("transactionHash", .string receipt.hash.text)]

/-- Liveness as a JSON value. -/
def Liveness.toJson (liveness : Liveness) : Json := .object [("up", .bool liveness.up)]

/-- Readiness as a JSON value; details are left out if there are none. -/
def Readiness.toJson (readiness : Readiness) : Json :=
  .object (("ready", .bool readiness.ready) :: Json.member? "downstreamDetails" readiness.details)

/-- A failure as a JSON value; the code is left out if there is none. -/
def ErrorBody.toJson (body : ErrorBody) : Json :=
  .object (
    [("reason", .string (Reason.text body.reason)), ("error", .string body.error)] ++
    Json.member? "code" (body.code.map fun code => .string code.text))

/-- A failure as a free-form value, its members sorted by name. -/
def ErrorBody.details (body : ErrorBody) : Json :=
  .object (
    Json.member? "code" (body.code.map fun code => .string code.text) ++
    [("error", .string body.error), ("reason", .string (Reason.text body.reason))])

/-! ## Reading -/

/-- Reads a reason by its name. -/
def Reason.read : Reader Reason := .variant (Reason.all.map fun reason => (reason.name, reason))

/-- Why a text is not the hex of a fixed number of bytes, in the words of the JSON form of hashes.
-/
def HexError.plainMessage : HexError → String
  | missingMarker => "missing 0x prefix"
  | oddLength => "odd number of digits"
  | badDigit byte position =>
    "invalid character " ++ Text.quotedChar (Char.ofNat byte.toNat) ++ " at position " ++
      Digits.decimalText position
  | wrongLength _ _ => "invalid string length"

/-- The digits of a hash in its JSON form: the marker may be missing, and only `0x` is one. -/
def TxHash.digits : List Char → List Char
  | '0' :: 'x' :: digits => digits
  | digits => digits

/-- The hash that a text denotes in its JSON form. The number of digits is checked before they are.
-/
def TxHash.ofText (text : String) : Except HexError TxHash := do
  let encoded := Hex.utf8 (digits text.toList)
  if encoded.length % 2 = 1 then throw .oddLength
  if encoded.length / 2 ≠ 32 then throw (.wrongLength 32 (encoded.length / 2))
  let bytes ← Hex.pairs 0 encoded
  if h : bytes.length = 32 then return ⟨bytes, h⟩
  else throw (.wrongLength 32 bytes.length)

/-- The end of an array that holds the bytes of a hash. A further byte is refused; a further value
of another kind, if it is the last, is not. -/
def TxHash.close (depth : Nat) (items : List Outline) (ending : Ending) : Except ReadError Unit :=
  match items with
  | [] => faulty ending.close
  | item :: others =>
    match Reader.byte depth item with
    | .ok _ => throw (.mismatch (.wrongByteCount 33 32))
    | .error (.fault cause) => throw (.fault cause)
    | .error (.mismatch _) =>
      match item, others with
      | .array _ _ _, _ => throw (.fault .trailingCharacters)
      | .object _ _, _ => throw (.fault .trailingCharacters)
      | _, [] => faulty ending.close
      | _, _ :: _ => throw (.fault .trailingCharacters)

/-- Reads the bytes of a hash from the items of an array; `given` are those read so far, latest
first. -/
def TxHash.readBytes (depth : Nat) (ending : Ending) :
    (wanted : Nat) → List Outline → (given : Bytes) → Except ReadError Bytes
  | 0, items, given => do
    TxHash.close depth items ending
    return given.reverse
  | _ + 1, [], given => do
    faulty ending.close
    throw (.mismatch (.wrongByteCount given.length 32))
  | wanted + 1, item :: items, given => do
    let byte ← Reader.byte depth item
    readBytes depth ending wanted items (byte :: given)

/-- Reads a hash: a hex text or an array of bytes. -/
def TxHash.read : Reader TxHash := fun depth outline =>
  match depth, outline with
  | _, .string spelling => do
    let text ← faulty spelling.decode
    (TxHash.ofText text).mapError fun cause => .mismatch (.refused cause.plainMessage)
  | depth + 1, .array _ items ending => do
    let bytes ← TxHash.readBytes depth ending 32 items []
    if h : bytes.length = 32 then return ⟨bytes, h⟩
    else throw (.mismatch (.wrongByteCount bytes.length 32))
  | 0, .array _ _ _ => .error (.fault .tooDeep)
  | 0, .object _ _ => .error (.fault .tooDeep)
  | 0, .misnamed _ => .error (.fault .tooDeep)
  | _, .number literal =>
    match Found.ofLiteral literal with
    | .number => .error (.mismatch (.wrongType .object (.fixedBytes 32)))
    | found => .error (.mismatch (.wrongType found (.fixedBytes 32)))
  | _, outline => Reader.reject (.fixedBytes 32) outline

/-- The JSON form of a receipt. -/
def Receipt.layout : Layout Receipt where
  name := "TransactionSendResponse"
  fields := [.of "transactionHash" .required TxHash.read fun hash _ => ⟨hash⟩]
  blank := ⟨FixedBytes.zero⟩

/-- Reads a receipt. -/
def Receipt.read : Reader Receipt := layout.read

/-- The JSON form of liveness. -/
def Liveness.layout : Layout Liveness where
  name := "LiveResponse"
  fields := [.of "up" .required Reader.flag fun up _ => ⟨up⟩]
  blank := ⟨false⟩

/-- Reads liveness. -/
def Liveness.read : Reader Liveness := layout.read

/-- The JSON form of readiness. -/
def Readiness.layout : Layout Readiness where
  name := "ReadyResponse"
  fields := [
    .of "ready" .required Reader.flag fun ready readiness => { readiness with ready := ready },
    .of "downstreamDetails" .optional (.optional .value) fun details readiness =>
      { readiness with details := details }]
  blank := ⟨false, none⟩

/-- Reads readiness. -/
def Readiness.read : Reader Readiness := layout.read

end TxGateway
