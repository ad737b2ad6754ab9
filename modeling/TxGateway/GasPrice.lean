import TxGateway.Quantity
/-!
# Gas prices

What a request offers to pay for gas. The offer is a quantity, or an object that names either a
single price or the two prices of a fee market; no offer leaves the price to the node. A transaction
carries only the fee that follows from the offer, so the two models never mix.
-/

namespace TxGateway

/-- The offer of a request. -/
inductive GasPrice where
  /-- A price given as such. -/
  | flat (price : Quantity)
  /-- A price given inside an object. -/
  | nested (price : Quantity)
  /-- The most that is paid for a unit of gas, and the part of it that goes to the block's
  producer. -/
  | market (maxFee priorityFee : Quantity)
deriving DecidableEq

/-- The fee that a transaction carries. -/
inductive Fee where
  | legacy (price : Quantity)
  | market (maxFee priorityFee : Quantity)
deriving DecidableEq

/-- Why a value is no offer. -/
inductive GasPriceError where
  | quantity (cause : QuantityError)
  /-- The object names neither a price nor a most; `names` are the names of its members. -/
  | unknownShape (names : List String)
  | member (name : String) (cause : QuantityError)
deriving DecidableEq, Repr

namespace GasPriceError

/-- The cause in words. -/
def message : GasPriceError → String
  | quantity cause => cause.message
  | unknownShape names =>
    "unrecognised object shape (keys: " ++ ", ".intercalate names ++ ")"
  | member name cause => "invalid field '" ++ name ++ "': " ++ cause.message

end GasPriceError

namespace GasPrice

/-- The member that holds a single price. -/
def priceName : String := "gasPrice"

/-- The member that holds the most that is paid. -/
def maxFeeName : String := "maxFeePerGas"

/-- The member that holds the producer's part. -/
def priorityFeeName : String := "maxPriorityFeePerGas"

/-- The fee of an offer. -/
def fee : GasPrice → Fee
  | flat price => .legacy price
  | nested price => .legacy price
  | market maxFee priorityFee => .market maxFee priorityFee

/-- The value of a member that is present: there, and not `null`. -/
def present? (members : List (String × Json)) (name : String) : Option Json :=
  (Json.find? name members).filter fun value => !value.isNull

/-- The quantity that a member holds. -/
def memberQuantity (name : String) (value : Json) : Except GasPriceError Quantity :=
  (Quantity.ofJson value).mapError (.member name)

/-- The offer that an object makes. Without a most, the producer's part is not looked at. -/
def ofMembers (members : List (String × Json)) : Except GasPriceError GasPrice :=
  match present? members maxFeeName with
  | some maxFee => do
    let priorityFee ←
      match present? members priorityFeeName with
      | some priorityFee => memberQuantity priorityFeeName priorityFee
      | none => pure Quantity.zero
    let maxFee ← memberQuantity maxFeeName maxFee
    return .market maxFee priorityFee
  | none =>
    match present? members priceName with
    | some price => do
      let price ← memberQuantity priceName price
      return .nested price
    | none => throw (.unknownShape (members.map Prod.fst))

/-- The offer that a value makes; no value and `null` make none. -/
def resolve : Option Json → Except GasPriceError (Option GasPrice)
  | none => .ok none
  | some .null => .ok none
  | some (.object members) => (ofMembers members).map some
  | some value => ((Quantity.ofJson value).mapError .quantity).map fun price => some (.flat price)

end GasPrice

end TxGateway
