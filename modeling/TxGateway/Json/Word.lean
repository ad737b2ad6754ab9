import TxGateway.Json.Double
import TxGateway.Json.Reader
/-!
# Machine words

Readers of whole numbers that must fit a machine word. A number with a fraction or an exponent, and
one that no word of 64 bits holds, counts as a double and is of the wrong type.
-/

namespace TxGateway.Json

/-- A numeral where a machine word is wanted. -/
inductive Word where
  | whole (number : Int)
  | double (text : String)
deriving DecidableEq, Repr

/-- The sense of a literal where a machine word is wanted. -/
def Word.ofLiteral (literal : List Char) : Except Fault Word :=
  let asDouble : Except Fault Word :=
    match literal with
    | '-' :: literal =>
      (Double.ofLiteral literal).map fun double => .double (String.ofList ('-' :: double.text))
    | literal => (Double.ofLiteral literal).map fun double => .double (String.ofList double.text)
  match Numeral.integer? literal with
  | some word => if Numeral.fitsWord word then .ok (.whole word) else asDouble
  | none => asDouble

namespace Reader

/-- Reads a whole number of a range within the words of 64 bits. -/
def wordWithin (wanted : Wanted) (least greatest : Int) : Reader Int := fun _ outline =>
  match outline with
  | .number literal => do
    match ← faulty (Word.ofLiteral literal) with
    | .whole word =>
      if least ≤ word ∧ word ≤ greatest then return word
      else throw (.mismatch (.outOfRange (.integer (Digits.signedText word)) wanted))
    | .double text => throw (.mismatch (.wrongType (.double text) wanted))
  | outline => reject wanted outline

/-- Reads a signed word of 64 bits. -/
def signedWord : Reader Int :=
  wordWithin .signedWord (-(Digits.capacity 2 63 : Int)) (Digits.capacity 2 63 - 1 : Int)

/-- Reads a byte. -/
def byte : Reader UInt8 := fun depth outline =>
  (wordWithin .byte 0 255 depth outline).map fun word => UInt8.ofNat word.toNat

end Reader

end TxGateway.Json
