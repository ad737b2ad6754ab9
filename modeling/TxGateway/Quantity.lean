import TxGateway.Hex
import TxGateway.Json.Basic
/-!
# Quantities

Unsigned whole numbers of at most 256 bits, written in decimal or behind the marker `0x` in hex.
White space around the text and leading zeros do not count; a sign, a fraction, an exponent or a
bare marker makes the text no quantity. A refusal names the text as it was given.
-/

namespace TxGateway

/-- An unsigned whole number of 256 bits. -/
@[ext] structure Quantity where
  toNat : Nat
  toNat_lt : toNat < Digits.capacity 2 256
deriving DecidableEq

/-- Why a value is no quantity. -/
inductive QuantityError where
  /-- The text has neither the decimal nor the hex form. -/
  | unparseable (text : String)
  /-- The number takes more than 256 bits. -/
  | overflow (text : String)
  /-- The value is neither a text nor a number; `found` names its type. -/
  | unexpectedType (found : String)
deriving DecidableEq, Repr

namespace QuantityError

/-- The cause in words. -/
def message : QuantityError → String
  | unparseable text => "'" ++ text ++ "' is not a decimal or 0x-prefixed hex integer"
  | overflow text => "'" ++ text ++ "' does not fit in 256 bits"
  | unexpectedType found => "expected an integer or string, found " ++ found

end QuantityError

namespace Quantity

/-- The quantity zero. -/
def zero : Quantity := ⟨0, by decide⟩

/-- The base in which a text without white space around it is written, and its digits. -/
def split (text : List Char) : Nat × List Char :=
  match Hex.afterMarker? text with
  | some digits => (16, digits)
  | none => (10, text)

/-- The quantity that a text denotes. -/
def ofText (text : String) : Except QuantityError Quantity :=
  let (base, digits) := split (Text.trim text.toList)
  if digits.isEmpty || !digits.all (Digits.isDigit base) then .error (.unparseable text)
  else if h : Digits.ofDigits base digits < Digits.capacity 2 256 then
    .ok ⟨Digits.ofDigits base digits, h⟩
  else .error (.overflow text)

/-- The quantity that a JSON value denotes: a string is read as a text, a number by its literal. -/
def ofJson : Json → Except QuantityError Quantity
  | .number literal => ofText literal
  | .string text => ofText text
  | other => .error (.unexpectedType other.typeName)

/-- The quantity in hex: the marker, then the digits without leading zeros. -/
def text (quantity : Quantity) : String :=
  String.ofList ('0' :: 'x' :: Digits.hex quantity.toNat)

/-- The quantity in decimal digits. -/
def decimalText (quantity : Quantity) : String := Digits.decimalText quantity.toNat

end Quantity

/-- A limit on the gas of a transaction: an unsigned whole number of 64 bits. -/
@[ext] structure GasLimit where
  toNat : Nat
  toNat_lt : toNat < Digits.capacity 2 64
deriving DecidableEq

namespace GasLimit

/-- The gas limit equal to a quantity, if it fits. -/
def ofQuantity? (quantity : Quantity) : Option GasLimit :=
  if h : quantity.toNat < Digits.capacity 2 64 then some ⟨quantity.toNat, h⟩ else none

/-- A gas limit is the number of its quantity. -/
theorem toNat_of_ofQuantity? {quantity : Quantity} {gas : GasLimit}
    (h : ofQuantity? quantity = some gas) : gas.toNat = quantity.toNat := by
  simp only [ofQuantity?] at h
  split at h
  · rw [← Option.some.inj h]
  · exact absurd h (by simp)

/-- The gas limit in hex, as transactions carry it. -/
def text (gas : GasLimit) : String := String.ofList ('0' :: 'x' :: Digits.hex gas.toNat)

/-- The gas limit in decimal digits, as requests carry it. -/
def decimalText (gas : GasLimit) : String := Digits.decimalText gas.toNat

end GasLimit

end TxGateway
