import TxGateway.Json.Fault
import TxGateway.Digits
/-!
# JSON numerals

The literals of JSON numbers: an optional minus sign, a whole part without leading zeros, an
optional fraction and an optional exponent. `Phase.step` reads a literal character by character;
`normal` is the one spelling under which a literal is kept.
-/

namespace TxGateway.Json.Numeral

/-- How far a literal has been read: the part to which its last character belongs. -/
inductive Phase where
  | sign
  | zero
  | whole
  | point
  | fraction
  | exponent
  | exponentSign
  | exponentDigits
deriving DecidableEq, Repr

/-- What a further character means to a literal. -/
inductive Turn where
  /-- The character belongs to the literal. -/
  | next (phase : Phase)
  /-- The literal is complete, and the character stands behind it. -/
  | complete
  /-- No literal goes on like this. -/
  | refused
deriving DecidableEq, Repr

/-- Whether a character is one of the ten decimal digits. -/
def isDigit (c : Char) : Bool := '0' ≤ c && c ≤ '9'

namespace Phase

/-- The phase after the first character of a literal. -/
def start? (c : Char) : Option Phase :=
  if c = '-' then some sign
  else if c = '0' then some zero
  else if isDigit c then some whole
  else none

/-- Whether a literal may end here. -/
def isComplete : Phase → Bool
  | zero | whole | fraction | exponentDigits => true
  | sign | point | exponent | exponentSign => false

/-- Reads one character. -/
def step (phase : Phase) (c : Char) : Turn :=
  match phase with
  | sign => if c = '0' then .next zero else if isDigit c then .next whole else .refused
  | zero =>
    if isDigit c then .refused
    else if c = '.' then .next point
    else if c = 'e' ∨ c = 'E' then .next exponent
    else .complete
  | whole =>
    if isDigit c then .next whole
    else if c = '.' then .next point
    else if c = 'e' ∨ c = 'E' then .next exponent
    else .complete
  | point => if isDigit c then .next fraction else .refused
  | fraction =>
    if isDigit c then .next fraction
    else if c = 'e' ∨ c = 'E' then .next exponent
    else .complete
  | exponent =>
    if c = '+' ∨ c = '-' then .next exponentSign
    else if isDigit c then .next exponentDigits
    else .refused
  | exponentSign => if isDigit c then .next exponentDigits else .refused
  | exponentDigits => if isDigit c then .next exponentDigits else .complete

end Phase

/-- Reads the rest of a text as the rest of a literal. -/
def checkFrom : Phase → List Char → Except Fault Unit
  | phase, [] => if phase.isComplete then .ok () else .error .endInValue
  | phase, c :: rest =>
    match phase.step c with
    | .next phase => checkFrom phase rest
    | .complete | .refused => .error .invalidNumber

/-- Whether a text is a literal and nothing else. -/
def check : List Char → Except Fault Unit
  | [] => .error .endInValue
  | c :: rest =>
    match Phase.start? c with
    | some phase => checkFrom phase rest
    | none => .error .invalidNumber

/-- The spelling under which a literal is kept: an exponent is marked by `e` and always has a sign.
-/
def normal : List Char → List Char
  | [] => []
  | c :: rest =>
    if c = 'e' ∨ c = 'E' then
      match rest with
      | '+' :: _ => 'e' :: rest
      | '-' :: _ => 'e' :: rest
      | _ => 'e' :: '+' :: rest
    else c :: normal rest

/-- The whole number that a literal without fraction and exponent denotes. Minus zero is no such
literal: its sign would be lost. -/
def integer? (literal : List Char) : Option Int :=
  match literal with
  | '-' :: digits =>
    if digits.all isDigit && digits ≠ ['0'] then some (-(Digits.ofDigits 10 digits : Int)) else none
  | digits => if digits.all isDigit then some (Digits.ofDigits 10 digits) else none

/-- Whether a number fits a machine word: 64 bits, unsigned if it is not negative. -/
def fitsWord (number : Int) : Bool :=
  -(Digits.capacity 2 63 : Int) ≤ number && number < (Digits.capacity 2 64 : Int)

end TxGateway.Json.Numeral
