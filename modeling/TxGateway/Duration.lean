import TxGateway.Digits
/-!
# Durations in messages

The text of a span of time that is a whole number of milliseconds: seconds with the decimals that
are needed from one second up, milliseconds below, and no span at all in nanoseconds.
-/

namespace TxGateway

/-- A span of time in milliseconds. -/
structure Duration where
  milliseconds : Nat
deriving DecidableEq, Repr

namespace Duration

/-- The three decimals of a number of thousandths. -/
def thousandths (rest : Nat) : List Char :=
  [Nat.digitChar (rest / 100), Nat.digitChar (rest / 10 % 10), Nat.digitChar (rest % 10)]

/-- Decimals behind a point, without the zeros at their end; nothing if all are zero. -/
def decimals (rest : Nat) : List Char :=
  match ((thousandths rest).reverse.dropWhile (· == '0')).reverse with
  | [] => []
  | digits => '.' :: digits

/-- The text of a duration. -/
def text (duration : Duration) : String :=
  let milliseconds := duration.milliseconds
  String.ofList (
    if milliseconds = 0 then ['0', 'n', 's']
    else if milliseconds < 1000 then Digits.decimal milliseconds ++ ['m', 's']
    else Digits.decimal (milliseconds / 1000) ++ decimals (milliseconds % 1000) ++ ['s'])

end Duration

end TxGateway
