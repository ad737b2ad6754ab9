import TxGateway.Json.Fault
import TxGateway.Text.Quoted
/-!
# Mismatches

Why a JSON text that is well formed as far as it was read does not have the shape that its reader
wants.
-/

namespace TxGateway.Json

/-- What a reader found in place of what it wanted. -/
inductive Found where
  | null
  | bool (flag : Bool)
  /-- A whole number that fits a machine word. -/
  | integer (literal : String)
  /-- A number with a fraction or exponent, as the shortest text of the nearest double. -/
  | double (text : String)
  /-- Any other number. -/
  | number
  | string (text : String)
  | array
  | object
deriving DecidableEq, Repr

namespace Found

/-- What was found, in words. -/
def message : Found → String
  | null => "null"
  | bool true => "boolean `true`"
  | bool false => "boolean `false`"
  | integer literal => "integer `" ++ literal ++ "`"
  | double text => "floating point `" ++ text ++ "`"
  | number => "number"
  | string text => "string " ++ Text.quoted text
  | array => "sequence"
  | object => "map"

end Found

/-- What a reader wants. -/
inductive Wanted where
  | text
  | flag
  | unit
  | signedWord
  | byte
  | numeralText
  | variantName
  | errorObject
  | record (name : String)
  | fixedBytes (size : Nat)
deriving DecidableEq, Repr

namespace Wanted

/-- What is wanted, in words. -/
def message : Wanted → String
  | text => "a string"
  | flag => "a boolean"
  | unit => "unit"
  | signedWord => "i64"
  | byte => "u8"
  | numeralText => "string containing a number"
  | variantName => "variant identifier"
  | errorObject => "a JSON-RPC 2.0 error object"
  | record name => "struct " ++ name
  | fixedBytes size =>
    Digits.decimalText size ++ " bytes, represented as a hex string of length " ++
      Digits.decimalText (2 * size) ++ ", an array of u8, or raw bytes"

end Wanted

/-- Why a value does not have the shape that its reader wants. -/
inductive Mismatch where
  | wrongType (found : Found) (wanted : Wanted)
  /-- The value has the right type but lies outside the range that is wanted. -/
  | outOfRange (found : Found) (wanted : Wanted)
  | duplicateMember (name : String)
  | missingMember (name : String)
  | unknownVariant (name : String) (known : List String)
  /-- A record given by places has too few of them. -/
  | tooFewPlaces (given : Nat) (record : String) (places : Nat)
  /-- A byte string given as an array has another length. -/
  | wrongByteCount (given size : Nat)
  /-- The value has the right type, but a rule of its own refuses it, in these words. -/
  | refused (why : String)
deriving DecidableEq, Repr

namespace Mismatch

/-- Names in back quotes, a comma between them. -/
def nameList : List String → String
  | [] => ""
  | [name] => "`" ++ name ++ "`"
  | name :: names => "`" ++ name ++ "`, " ++ nameList names

/-- The mismatch in words. -/
def message : Mismatch → String
  | wrongType found wanted => "invalid type: " ++ found.message ++ ", expected " ++ wanted.message
  | outOfRange found wanted => "invalid value: " ++ found.message ++ ", expected " ++ wanted.message
  | duplicateMember name => "duplicate field `" ++ name ++ "`"
  | missingMember name => "missing field `" ++ name ++ "`"
  | unknownVariant name known =>
    "unknown variant `" ++ name ++ "`, expected one of " ++ nameList known
  | tooFewPlaces given record places =>
    "invalid length " ++ Digits.decimalText given ++ ", expected struct " ++ record ++ " with " ++
      Digits.decimalText places ++ (if places = 1 then " element" else " elements")
  | wrongByteCount given size =>
    "invalid length " ++ Digits.decimalText given ++ ", expected exactly " ++
      Digits.decimalText size ++ " bytes"
  | refused why => why

end Mismatch

/-- Why a text cannot be read: it is no JSON text, or not of the wanted shape. -/
inductive ReadError where
  | fault (cause : Fault)
  | mismatch (cause : Mismatch)
deriving DecidableEq, Repr

namespace ReadError

/-- The error in words. -/
def message : ReadError → String
  | fault cause => cause.message
  | mismatch cause => cause.message

end ReadError

end TxGateway.Json
