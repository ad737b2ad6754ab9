import TxGateway.Request
/-!
# JSON-RPC requests

The envelope of a request to the gateway: version, identifier, method and parameters. The parameters
are only passed over when the envelope is read; the method decides what to read them as.
-/

namespace TxGateway.Rpc

open Json

/-- The identifier by which a reply is matched with its request. -/
inductive Id where
  | null
  | number (value : Nat)
  | text (value : String)
deriving DecidableEq, Repr

namespace Id

/-- An identifier as a JSON value. -/
def toJson : Id → Json
  | null => .null
  | number value => .number (Digits.decimalText value)
  | text value => .string value

/-- A value that cannot be an identifier. -/
def unusable : ReadError :=
  .mismatch (.refused "data did not match any variant of untagged enum Id")

/-- Reads an identifier: `null`, an unsigned whole number of 64 bits, or a string. -/
def read : Reader Id := fun _ outline =>
  match outline with
  | .null => .ok .null
  | .number literal =>
    match Numeral.integer? literal with
    | some value =>
      if 0 ≤ value ∧ Numeral.fitsWord value then .ok (.number value.toNat) else .error unusable
    | none => .error unusable
  | .string spelling => (faulty spelling.decode).map .text
  | _ => .error unusable

end Id

/-- A request to the gateway. -/
structure Envelope where
  id : Id
  method : String
  params : Option Outline

/-- Reads the version, which must be the one in use. -/
def readVersion : Reader Unit :=
  .judged .text fun version =>
    if version = "2.0" then .ok () else .error (.wrongType (.string version) .text)

/-- Takes a value as it is written, if it is well formed. -/
def readWritten : Reader Outline := fun _ outline => do
  faulty outline.skip
  return outline

namespace Envelope

/-- The JSON form of a request. -/
def layout : Layout Envelope where
  name := "Request"
  fields := [
    .of "jsonrpc" .required readVersion fun _ envelope => envelope,
    .of "id" .required Id.read fun id envelope => { envelope with id := id },
    .of "method" .required Reader.text fun method envelope => { envelope with method := method },
    .of "params" .nullable (.optional readWritten) fun params envelope =>
      { envelope with params := params }]
  blank := ⟨.null, "", none⟩

/-- Reads a request. -/
def read : Reader Envelope := layout.read

end Envelope

/-- The JSON form of a notification: a request without identifier. Only its form counts. -/
def notificationLayout : Layout Unit where
  name := "Notification"
  fields := [
    .of "jsonrpc" .required readVersion fun _ _ => (),
    .of "method" .required Reader.text fun _ _ => (),
    .of "params" .nullable (.optional readWritten) fun _ _ => ()]
  blank := ()

/-- The JSON form of anything that has an identifier. -/
def identifiedLayout : Layout Id where
  name := "InvalidRequest"
  fields := [.of "id" .required Id.read fun id _ => id]
  blank := .null

/-- What a message to the gateway is. -/
inductive Message where
  | request (envelope : Envelope)
  | notification
  /-- Neither of the two, but with an identifier that a reply can carry. -/
  | identified (id : Id)
  | unusable

/-- Reads a message of which the outline is known to be complete. -/
def Message.ofDocument (document : Document) : Message :=
  let attempt {α : Type} (read : Reader α) : Option α :=
    match read maxDepth document.root with
    | .ok value => if document.trailing then none else some value
    | .error _ => none
  match attempt Envelope.read with
  | some envelope => .request envelope
  | none =>
    match attempt notificationLayout.read with
    | some _ => .notification
    | none =>
      match attempt identifiedLayout.read with
      | some id => .identified id
      | none => .unusable

end TxGateway.Rpc
