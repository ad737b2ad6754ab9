/-!
# Digits

Natural numbers and their digits, most significant first: `ofDigits` gives the number that digits
denote, `toDigits` the digits of a number without leading zeros, and `capacity` says how many
numbers a count of digits is enough for. Letters are written in lower case and read in either case.
-/

namespace TxGateway.Digits

/-- The value of a decimal or hex digit. -/
def value? (c : Char) : Option Nat :=
  if '0' ≤ c ∧ c ≤ '9' then some (c.toNat - '0'.toNat)
  else if 'a' ≤ c ∧ c ≤ 'f' then some (c.toNat - 'a'.toNat + 10)
  else if 'A' ≤ c ∧ c ≤ 'F' then some (c.toNat - 'A'.toNat + 10)
  else none

/-- Whether a character is a digit in the given base, which is at most sixteen. -/
def isDigit (base : Nat) (c : Char) : Bool :=
  match value? c with
  | some digit => digit < base
  | none => false

/-- The number that a run of digits denotes; anything else counts as zero. -/
def ofDigits (base : Nat) (digits : List Char) : Nat :=
  digits.foldl (fun number c => number * base + (value? c).getD 0) 0

/-- How many numbers have at most so many digits in a base: the power of the base. -/
def capacity (base length : Nat) : Nat := Nat.pow base length

/-- The digits of a number, at least one, in a base that is at least two. -/
def toDigits (base : Nat) (number : Nat) : List Char :=
  if _h : 2 ≤ base ∧ base ≤ number then
    toDigits base (number / base) ++ [Nat.digitChar (number % base)]
  else [Nat.digitChar number]
termination_by number
decreasing_by exact Nat.div_lt_self (by omega) (by omega)

/-- A number in decimal digits. -/
def decimal (number : Nat) : List Char := toDigits 10 number

/-- A number in hex digits. -/
def hex (number : Nat) : List Char := toDigits 16 number

/-- A number in decimal digits, as a text. -/
def decimalText (number : Nat) : String := String.ofList (decimal number)

/-- A whole number in decimal digits, a minus sign before a negative one. -/
def signedText : Int → String
  | .ofNat number => decimalText number
  | .negSucc number => String.ofList ('-' :: decimal (number + 1))

/-- The digit for a number below sixteen has that number as its value. -/
theorem value?_digitChar (number : Nat) (h : number < 16) :
    value? (Nat.digitChar number) = some number := by
  have all : ∀ n, n < 16 → value? (Nat.digitChar n) = some n := by decide
  exact all number h

/-- The digit for a number below the base is a digit of the base. -/
theorem isDigit_digitChar (base number : Nat) (hbase : base ≤ 16) (h : number < base) :
    isDigit base (Nat.digitChar number) = true := by
  simp [isDigit, value?_digitChar number (by omega), h]

/-- Digits stand between `0` and `f` among the characters. -/
theorem code_of_isDigit {base : Nat} {c : Char} (h : isDigit base c = true) :
    48 ≤ c.toNat ∧ c.toNat ≤ 102 := by
  unfold isDigit value? at h
  by_cases hdigit : '0' ≤ c ∧ c ≤ '9'
  · have hlow : 48 ≤ c.toNat := hdigit.1
    have hhigh : c.toNat ≤ 57 := hdigit.2
    omega
  by_cases hlower : 'a' ≤ c ∧ c ≤ 'f'
  · have hlow : 97 ≤ c.toNat := hlower.1
    have hhigh : c.toNat ≤ 102 := hlower.2
    omega
  by_cases hupper : 'A' ≤ c ∧ c ≤ 'F'
  · have hlow : 65 ≤ c.toNat := hupper.1
    have hhigh : c.toNat ≤ 70 := hupper.2
    omega
  · simp [hdigit, hlower, hupper] at h

/-- Appending a digit shifts the number by one place. -/
theorem ofDigits_concat (base : Nat) (digits : List Char) (c : Char) :
    ofDigits base (digits ++ [c]) = ofDigits base digits * base + (value? c).getD 0 := by
  simp [ofDigits, List.foldl_append]

/-- The digits of a number denote it. -/
theorem ofDigits_toDigits (base number : Nat) (hlow : 2 ≤ base) (hhigh : base ≤ 16) :
    ofDigits base (toDigits base number) = number := by
  induction number using Nat.strongRecOn with
  | ind number ih =>
    rw [toDigits]
    split
    · next h =>
      have hmod : number % base < 16 := by have := Nat.mod_lt number (by omega : 0 < base); omega
      rw [ofDigits_concat, ih (number / base) (Nat.div_lt_self (by omega) (by omega)),
        value?_digitChar _ hmod, Option.getD_some, Nat.mul_comm, Nat.div_add_mod]
    · next h =>
      simp [ofDigits, value?_digitChar number (by omega)]

/-- The digits of a number are digits of the base. -/
theorem all_isDigit_toDigits (base number : Nat) (hlow : 2 ≤ base) (hhigh : base ≤ 16) :
    (toDigits base number).all (isDigit base) = true := by
  induction number using Nat.strongRecOn with
  | ind number ih =>
    rw [toDigits]
    split
    · next h =>
      rw [List.all_append, ih (number / base) (Nat.div_lt_self (by omega) (by omega))]
      simp [isDigit_digitChar base _ hhigh (Nat.mod_lt number (by omega))]
    · next h =>
      simp [isDigit_digitChar base number hhigh (by omega)]

end TxGateway.Digits
