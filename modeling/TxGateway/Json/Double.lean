import TxGateway.Json.Fault
import TxGateway.Json.Numeral
/-!
# Doubles

The double-precision number that a numeral stands for where a machine word is wanted, and its
shortest text. Doubles are exact fractions here: a whole number below `2 ^ 53` times a power of two.
At most the digits that fit 64 bits count; the power of ten is applied in one rounded step where it
is a double, and in steps of `10 ^ 308` where it is not.
-/

namespace TxGateway.Json

/-- A finite double without its sign: `mantissa * 2 ^ exponent`, with a mantissa below `2 ^ 53`. -/
structure Double where
  mantissa : Nat
  exponent : Int
deriving DecidableEq, Repr

namespace Double

/-- The numerator of `number * base ^ exponent` over the denominator `lower`. -/
def upper (base number : Nat) (exponent : Int) : Nat := number * Digits.capacity base exponent.toNat

/-- The denominator of a power. -/
def lower (base : Nat) (exponent : Int) : Nat := Digits.capacity base (-exponent).toNat

/-- The least mantissa of a double that has all its binary digits. -/
def leastNormal : Nat := Digits.capacity 2 52

/-- The exponent of the least double. -/
def leastExponent : Int := -1074

/-- The exponent of the greatest doubles. -/
def greatestExponent : Int := 971

/-- A quotient rounded to the nearest whole number, a half to the even one. -/
def roundDiv (num den : Nat) : Nat :=
  let quotient := num / den
  let rest := 2 * (num % den)
  if rest < den then quotient
  else if den < rest then quotient + 1
  else quotient + quotient % 2

/-- The double nearest to a quotient, if it is not too great for one. -/
def ofQuotient (num den : Nat) : Option Double :=
  if num = 0 then some ⟨0, leastExponent⟩
  else
    let guess : Int := (Nat.log2 num : Int) - Nat.log2 den - 52
    let scaled (exponent : Int) : Nat × Nat :=
      (upper 2 num (-exponent), den * lower 2 (-exponent))
    let (top, bottom) := scaled guess
    let exponent := max leastExponent (if top / bottom < leastNormal then guess - 1 else guess)
    let (top, bottom) := scaled exponent
    let mantissa := roundDiv top bottom
    let rounded : Double :=
      if mantissa = 2 * leastNormal then ⟨leastNormal, exponent + 1⟩ else ⟨mantissa, exponent⟩
    if greatestExponent < rounded.exponent then none else some rounded

/-- The numerator of a double as a fraction. -/
def num (double : Double) : Nat := upper 2 double.mantissa double.exponent

/-- The denominator of a double as a fraction. -/
def den (double : Double) : Nat := lower 2 double.exponent

/-- The double nearest to a power of ten. -/
def powerOfTen (exponent : Nat) : Option Double := ofQuotient (Digits.capacity 10 exponent) 1

/-- A double times a power of ten. Powers out of reach are taken in steps; three steps take any
double made from 64 bits to zero. -/
def scale : (steps : Nat) → Double → (exponent : Int) → Option Double
  | 0, double, _ => some double
  | steps + 1, double, exponent =>
    if exponent.natAbs ≤ 308 then
      (powerOfTen exponent.natAbs).bind fun power =>
        if 0 ≤ exponent then ofQuotient (double.num * power.num) (double.den * power.den)
        else ofQuotient (double.num * power.den) (double.den * power.num)
    else if double.mantissa = 0 then some double
    else if 0 ≤ exponent then none
    else
      (powerOfTen 308).bind fun power =>
        (ofQuotient (double.num * power.den) (double.den * power.num)).bind fun double =>
          scale steps double (exponent + 308)

/-! ## From numerals -/

/-- Takes up digits as long as the number fits 64 bits; the result also says how many were taken. -/
def takeDigits (number : Nat) (taken : Nat) : List Char → Nat × Nat
  | [] => (number, taken)
  | c :: digits =>
    let next := number * 10 + (Digits.value? c).getD 0
    if next < Digits.capacity 2 64 then takeDigits next (taken + 1) digits else (number, taken)

/-- The number that the digits of a literal make, with the power of ten that goes with it, and the
exponent that the literal states. -/
def parts (literal : List Char) : Nat × Int × Int :=
  let whole := literal.takeWhile Numeral.isDigit
  let rest := literal.dropWhile Numeral.isDigit
  let (significand, taken) := takeDigits 0 0 whole
  let missed : Int := (whole.length : Int) - taken
  let (fraction, rest) :=
    match rest with
    | '.' :: rest => (rest.takeWhile Numeral.isDigit, rest.dropWhile Numeral.isDigit)
    | rest => ([], rest)
  let (significand, places) := takeDigits significand 0 fraction
  let stated : Int :=
    match rest with
    | _ :: '-' :: digits => -(Digits.ofDigits 10 digits : Int)
    | _ :: '+' :: digits => Digits.ofDigits 10 digits
    | _ :: digits => Digits.ofDigits 10 digits
    | [] => 0
  (significand, missed - places, stated)

/-- The double that a literal without sign stands for. -/
def ofLiteral (literal : List Char) : Except Fault Double :=
  let (significand, power, stated) := parts literal
  let double :=
    if Digits.capacity 2 31 ≤ stated.natAbs then
      if significand ≠ 0 ∧ 0 < stated then none else some ⟨0, leastExponent⟩
    else (ofQuotient significand 1).bind fun double => scale 4 double (power + stated)
  match double with
  | some double => .ok double
  | none => .error .numberOutOfRange

/-! ## Shortest text -/

/-- Whether a fraction lies between the neighbours of a double so that it is read as that double. -/
def reads (double : Double) (top bottom : Nat) : Bool :=
  let even := double.mantissa % 2 = 0
  let quarter := double.mantissa = leastNormal ∧ leastExponent < double.exponent
  let low := upper 2 (4 * double.mantissa - (if quarter then 1 else 2)) (double.exponent - 2)
  let high := upper 2 (4 * double.mantissa + 2) (double.exponent - 2)
  let unit := lower 2 (double.exponent - 2)
  let least := low * bottom
  let value := top * unit
  let greatest := high * bottom
  if even then least ≤ value && value ≤ greatest else least < value && value < greatest

/-- The place of the first digit of a positive fraction: `10 ^ (place - 1)` is not above it. -/
def firstPlace (num den : Nat) : Int :=
  let place : Int := ((Digits.decimal num).length : Int) - (Digits.decimal den).length
  if den * upper 10 1 place ≤ num * lower 10 place then place + 1 else place

/-- The number with the given count of digits that is nearest to a double and read as it, if there
is one, with its power of ten. -/
def withDigits? (double : Double) (place : Int) (count : Nat) : Option (Nat × Int) :=
  let power := place - count
  let top := double.num * lower 10 power
  let bottom := double.den * upper 10 1 power
  let below := top / bottom
  let fits (candidate : Nat) : Bool :=
    reads double (upper 10 candidate power) (lower 10 power)
  let rest := 2 * (top % bottom)
  let nearer := if rest < bottom ∨ (rest = bottom ∧ below % 2 = 0) then below else below + 1
  let farther := if nearer = below then below + 1 else below
  if fits nearer then some (nearer, power)
  else if fits farther then some (farther, power)
  else none

/-- The fewest digits that read back as a double, with their power of ten. -/
def shortest (double : Double) : Nat × Int :=
  let place := firstPlace double.num double.den
  match (List.range 18).findSome? fun count =>
      if count = 0 then none else withDigits? double place count with
  | some found => found
  | none => (double.mantissa, double.exponent)

/-- Drops the zeros at the end of a number in favour of its power of ten. -/
def dropZeros (digits : List Char) (power : Int) : List Char × Int :=
  let kept := (digits.reverse.dropWhile (· == '0')).reverse
  (kept, power + ((digits.length : Int) - kept.length))

/-- Digits and a power of ten as a text: with a point where it falls among the first sixteen places
or close before them, and with an exponent otherwise. -/
def layoutDigits (digits : List Char) (power : Int) : List Char :=
  let point := (digits.length : Int) + power
  if 0 ≤ power ∧ point ≤ 16 then digits ++ List.replicate power.toNat '0' ++ ['.', '0']
  else if 0 < point ∧ point ≤ 16 then digits.take point.toNat ++ '.' :: digits.drop point.toNat
  else if -5 < point ∧ point ≤ 0 then '0' :: '.' :: (List.replicate (-point).toNat '0' ++ digits)
  else
    let exponent := 'e' :: (Digits.signedText (point - 1)).toList
    match digits with
    | [] => exponent
    | [digit] => digit :: exponent
    | digit :: others => digit :: '.' :: others ++ exponent

/-- The shortest text of a double. -/
def text (double : Double) : List Char :=
  if double.mantissa = 0 then ['0', '.', '0']
  else
    let (significand, power) := shortest double
    let (digits, power) := dropZeros (Digits.decimal significand) power
    layoutDigits digits power

end Double

end TxGateway.Json
