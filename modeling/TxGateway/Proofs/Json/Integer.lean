import TxGateway.Json.Numeral
import TxGateway.Proofs.QuantityText
/-!
# Whole numbers as JSON literals

The decimal digits of a number, without leading zeros, are a JSON literal, and the literal denotes
the number.
-/

namespace TxGateway.Json.Numeral

/-- The decimal digits of a number are digits of a literal. -/
theorem isDigit_of_mem_decimal (number : Nat) :
    ∀ c ∈ Digits.decimal number, isDigit c = true := by
  have hdigit : ∀ n, n < 10 → isDigit (Nat.digitChar n) = true := by decide
  intro c hc
  obtain ⟨digit, hlt, rfl⟩ := Digits.exists_digitChar_of_mem_toDigits (by omega) c hc
  exact hdigit digit hlt

/-- A number has a first digit, and only zero has the digit zero there. -/
theorem decimal_cases (number : Nat) :
    (number = 0 ∧ Digits.decimal number = ['0']) ∨
      ∃ c rest, Digits.decimal number = c :: rest ∧ c ≠ '0' := by
  rcases Nat.eq_zero_or_pos number with rfl | hpos
  · refine Or.inl ⟨rfl, ?_⟩
    rw [Digits.decimal, Digits.toDigits]
    rfl
  · exact Or.inr (Digits.head_toDigits_ne_zero (by omega) (by omega) hpos)

/-- Digits go on with a whole part. -/
theorem checkFrom_whole {digits : List Char} (h : ∀ c ∈ digits, isDigit c = true) :
    checkFrom .whole digits = .ok () := by
  induction digits with
  | nil => rfl
  | cons c digits ih =>
    have hc : isDigit c = true := h c List.mem_cons_self
    rw [checkFrom, Phase.step, if_pos hc]
    exact ih fun d hd => h d (List.mem_cons_of_mem _ hd)

/-- The decimal digits of a number are a literal. -/
theorem check_decimal (number : Nat) : check (Digits.decimal number) = .ok () := by
  have hall := isDigit_of_mem_decimal number
  rcases decimal_cases number with ⟨-, hzero⟩ | ⟨c, rest, hdigits, hc⟩
  · rw [hzero]
    rfl
  · rw [hdigits] at hall ⊢
    have hdigit : isDigit c = true := hall c List.mem_cons_self
    have hminus : c ≠ '-' := by
      rintro rfl
      cases hdigit
    have hstart : Phase.start? c = some .whole := by
      simp [Phase.start?, hminus, hc, hdigit]
    rw [check, hstart]
    exact checkFrom_whole fun d hd => hall d (List.mem_cons_of_mem _ hd)

/-- The decimal digits of a number denote it. -/
theorem integer?_decimal (number : Nat) :
    integer? (Digits.decimal number) = some (number : Int) := by
  have hall : (Digits.decimal number).all isDigit = true :=
    List.all_eq_true.mpr (isDigit_of_mem_decimal number)
  have hvalue : Digits.ofDigits 10 (Digits.decimal number) = number :=
    Digits.ofDigits_toDigits 10 number (by omega) (by omega)
  have hminus : ∀ rest, Digits.decimal number ≠ '-' :: rest := by
    intro rest hrest
    rw [hrest] at hall
    cases hall
  rw [integer?.eq_2 _ hminus, if_pos hall, hvalue]

/-- A natural number fits a machine word when it has at most 64 bits. -/
theorem fitsWord_natCast_iff {number : Nat} :
    fitsWord (number : Int) = true ↔ number < Digits.capacity 2 64 := by
  simp only [fitsWord, Bool.and_eq_true, decide_eq_true_eq]
  constructor
  · rintro ⟨-, h⟩
    omega
  · intro h
    constructor
    · omega
    · omega

end TxGateway.Json.Numeral
