import TxGateway.Request
/-!
# Transactions

A transaction as the node is asked to sign and submit it: every address, quantity and byte string in
its one canonical spelling, and what the request left out left out. The node fills in the rest.
-/

namespace TxGateway

/-- A transaction that the node is to sign. -/
structure Transaction where
  sender : Address
  recipient : Option Address
  gas : Option GasLimit
  nonce : Option Quantity
  value : Option Quantity
  data : Option Bytes
  fee : Option Fee
deriving DecidableEq

/-- The members that state a fee: one for a legacy fee, two for a fee market. -/
def Fee.members : Fee → List (String × Json)
  | legacy price => [("gasPrice", .string price.text)]
  | market maxFee priorityFee =>
    [("maxFeePerGas", .string maxFee.text), ("maxPriorityFeePerGas", .string priorityFee.text)]

namespace Transaction

/-- The members of a transaction that are set. -/
def members (transaction : Transaction) : List (String × Json) :=
  [("from", Json.string (Address.text transaction.sender))] ++
  Json.member? "to" (transaction.recipient.map fun address => .string (Address.text address)) ++
  Json.member? "gas" (transaction.gas.map fun gas => .string gas.text) ++
  Json.member? "nonce" (transaction.nonce.map fun nonce => .string nonce.text) ++
  Json.member? "value" (transaction.value.map fun value => .string value.text) ++
  Json.member? "data" (transaction.data.map fun data => .string (Hex.encode data)) ++
  (match transaction.fee with
    | some fee => fee.members
    | none => [])

/-- A transaction as a JSON value, its members sorted by name. -/
def toJson (transaction : Transaction) : Json :=
  .object (transaction.members.foldl (fun sorted member => Json.insert member.1 member.2 sorted) [])

end Transaction

/-- What is submitted: a payload that is signed already, or a transaction for the node to sign. -/
inductive Submission where
  | raw (payload : Bytes)
  | unsigned (transaction : Transaction)
deriving DecidableEq

end TxGateway
