import TxGateway.Text.Blank
import TxGateway.Text.Quoted
/-!
# Hex text

Byte strings, addresses and hashes as text: a marker `0x`, then two hex digits for each byte.
Reading accepts white space around the text, either letter case in marker and digits, and nothing
else; writing uses lower case. A text that is refused is refused for one cause, and the causes are
tried in the order marker, even length, digits, number of bytes. Lengths and positions count bytes
of UTF-8.
-/

namespace TxGateway

/-- A byte string. -/
abbrev Bytes := List UInt8

/-- A byte string of a fixed length. -/
@[ext] structure FixedBytes (size : Nat) where
  bytes : Bytes
  length_eq : bytes.length = size
deriving DecidableEq

/-- The byte string of zeros. -/
def FixedBytes.zero {size : Nat} : FixedBytes size := ⟨List.replicate size 0, List.length_replicate⟩

/-- The account that sends or receives a transaction: twenty bytes. -/
abbrev Address := FixedBytes 20

/-- The hash that names a transaction: thirty-two bytes. -/
abbrev TxHash := FixedBytes 32

/-- Why a text is not the hex text that was asked for. -/
inductive HexError where
  | missingMarker
  | oddLength
  | badDigit (byte : UInt8) (position : Nat)
  | wrongLength (expected actual : Nat)
deriving DecidableEq, Repr

namespace HexError

/-- The cause in words. A byte that is no digit is shown as the character with its number. -/
def message : HexError → String
  | missingMarker => "missing 0x prefix"
  | oddLength => "invalid hex: Odd number of digits"
  | badDigit byte position =>
    "invalid hex: Invalid character " ++ Text.quotedChar (Char.ofNat byte.toNat) ++
      " at position " ++ Digits.decimalText position
  | wrongLength expected actual =>
    "expected " ++ Digits.decimalText expected ++ " bytes, got " ++ Digits.decimalText actual

end HexError

namespace Hex

/-- The text after the marker `0x` or `0X`, if the text starts with one. -/
def afterMarker? : List Char → Option (List Char)
  | '0' :: 'x' :: digits => some digits
  | '0' :: 'X' :: digits => some digits
  | _ => none

/-- The bytes of a text in UTF-8. -/
def utf8 (text : List Char) : Bytes :=
  text.flatMap String.utf8EncodeChar

/-- The value of a byte that is a hex digit; `position` says where it stands. -/
def nibble (position : Nat) (byte : UInt8) : Except HexError Nat :=
  match Digits.value? (Char.ofNat byte.toNat) with
  | some value => .ok value
  | none => .error (.badDigit byte position)

/-- The bytes that pairs of digits denote; `position` is where the first digit stands. -/
def pairs (position : Nat) : Bytes → Except HexError Bytes
  | high :: low :: rest => do
    let first ← nibble position high
    let second ← nibble (position + 1) low
    let bytes ← pairs (position + 2) rest
    return UInt8.ofNat (16 * first + second) :: bytes
  | _ => .ok []

/-- The bytes that the digits after the marker denote. -/
def ofDigits (digits : List Char) : Except HexError Bytes :=
  let encoded := utf8 digits
  if encoded.length % 2 = 1 then .error .oddLength else pairs 0 encoded

/-- The bytes that a hex text denotes. -/
def decode (text : String) : Except HexError Bytes :=
  match afterMarker? (Text.trim text.toList) with
  | some digits => ofDigits digits
  | none => .error .missingMarker

/-- The byte string of a fixed length that a hex text denotes. -/
def decodeFixed (size : Nat) (text : String) : Except HexError (FixedBytes size) := do
  let bytes ← decode text
  if h : bytes.length = size then return ⟨bytes, h⟩
  else throw (.wrongLength size bytes.length)

/-- The two digits of a byte. -/
def byteDigits (byte : UInt8) : List Char :=
  [Nat.digitChar (byte.toNat / 16), Nat.digitChar (byte.toNat % 16)]

/-- A byte string as digits, without marker. -/
def digits (bytes : Bytes) : List Char :=
  bytes.flatMap byteDigits

/-- A byte string as a hex text. -/
def encode (bytes : Bytes) : String :=
  String.ofList ('0' :: 'x' :: digits bytes)

@[simp] theorem digits_cons (byte : UInt8) (bytes : Bytes) :
    digits (byte :: bytes) = byteDigits byte ++ digits bytes := rfl

end Hex

/-- The address that a hex text denotes. Any letter case is accepted, checksummed or not. -/
def Address.ofText (text : String) : Except HexError Address := Hex.decodeFixed 20 text

/-- The address as a hex text. -/
def Address.text (address : Address) : String := Hex.encode address.bytes

/-- The hash as a hex text. -/
def TxHash.text (hash : TxHash) : String := Hex.encode hash.bytes

end TxGateway
