import Mathlib.Data.Nat.Digits.Defs
import TxGateway.Proofs.QuantityText
import TxGateway.Proofs.Json.Integer
/-!
# The grammar of quantities

Which texts are quantities, said by place value and without running the reader. `Digits.Denote` gives
the number that digits denote, `Quantity.IsWritten` says how a text writes a number: in decimal
digits, or in hex digits behind a marker, with white space around it.

* `Digits.ofDigits_eq_of_denote` : reading digit by digit gives the number by place value;
* `Quantity.ofText_cases` : a text is accepted, too large, or not the text of a number;
* `Quantity.ofJson_number_eq_ok_iff` : a JSON number is accepted when it has neither sign nor
  fraction nor exponent and fits;
* `Quantity.reads_written_numbers` : all of it together.
-/

namespace TxGateway

namespace Digits

/-! ## Place value -/

/-- A character is the digit for a value in a base: one of the ten decimal digits, or a letter in
either case for the values from ten on. -/
def IsDigitFor (base : Nat) (c : Char) (value : Nat) : Prop :=
  value < base ∧ (value < 10 ∧ c.toNat = '0'.toNat + value ∨
    10 ≤ value ∧ (c.toNat = 'a'.toNat + (value - 10) ∨ c.toNat = 'A'.toNat + (value - 10)))

/-- Digits, the one of the highest place first, denote the sum of their values times the powers of
the base. -/
def Denote (base : Nat) (digits : List Char) (number : Nat) : Prop :=
  ∃ values, List.Forall₂ (IsDigitFor base) digits values ∧
    Nat.ofDigits base values.reverse = number

/-- The value of a character is the one that it is a digit for. -/
theorem value?_eq_some_iff {c : Char} {value : Nat} :
    value? c = some value ↔ IsDigitFor 16 c value := by
  have hdecimal : '0' ≤ c ∧ c ≤ '9' ↔ 48 ≤ c.toNat ∧ c.toNat ≤ 57 := Iff.rfl
  have hsmall : 'a' ≤ c ∧ c ≤ 'f' ↔ 97 ≤ c.toNat ∧ c.toNat ≤ 102 := Iff.rfl
  have hcapital : 'A' ≤ c ∧ c ≤ 'F' ↔ 65 ≤ c.toNat ∧ c.toNat ≤ 70 := Iff.rfl
  have hzero : '0'.toNat = 48 := rfl
  have ha : 'a'.toNat = 97 := rfl
  have hA : 'A'.toNat = 65 := rfl
  rw [value?, IsDigitFor, hzero, ha, hA, if_congr hdecimal rfl rfl]
  by_cases hfirst : 48 ≤ c.toNat ∧ c.toNat ≤ 57
  · rw [if_pos hfirst, Option.some.injEq]
    omega
  rw [if_neg hfirst, if_congr hsmall rfl rfl]
  by_cases hsecond : 97 ≤ c.toNat ∧ c.toNat ≤ 102
  · rw [if_pos hsecond, Option.some.injEq]
    omega
  rw [if_neg hsecond, if_congr hcapital rfl rfl]
  by_cases hthird : 65 ≤ c.toNat ∧ c.toNat ≤ 70
  · rw [if_pos hthird, Option.some.injEq]
    omega
  rw [if_neg hthird]
  constructor
  · intro h
    cases h
  · intro h
    omega

/-- A digit of a smaller base is a digit of base sixteen. -/
theorem IsDigitFor.value? {base : Nat} {c : Char} {value : Nat} (hbase : base ≤ 16)
    (h : IsDigitFor base c value) : Digits.value? c = some value :=
  value?_eq_some_iff.mpr ⟨Nat.lt_of_lt_of_le h.1 hbase, h.2⟩

/-- The digits of a base are the characters that are digits for some value. -/
theorem isDigit_iff {base : Nat} {c : Char} (hbase : base ≤ 16) :
    isDigit base c = true ↔ ∃ value, IsDigitFor base c value := by
  constructor
  · intro h
    unfold isDigit at h
    split at h
    · next value hvalue =>
      exact ⟨value, of_decide_eq_true h, (value?_eq_some_iff.mp hvalue).2⟩
    · cases h
  · rintro ⟨value, hvalue⟩
    rw [isDigit, hvalue.value? hbase]
    exact decide_eq_true hvalue.1

/-- Reading digits one after the other into a number puts the number in front of them, as a digit of
a place higher than theirs. -/
theorem foldl_eq_of_digits {base : Nat} {digits : List Char} {values : List Nat}
    (hbase : base ≤ 16) (h : List.Forall₂ (IsDigitFor base) digits values) (number : Nat) :
    digits.foldl (fun number c => number * base + (value? c).getD 0) number =
      Nat.ofDigits base (values.reverse ++ [number]) := by
  induction h generalizing number with
  | nil => rw [List.reverse_nil, List.nil_append, Nat.ofDigits_singleton, List.foldl_nil]
  | @cons c value digits values hc hrest ih =>
    rw [List.foldl_cons, ih, hc.value? hbase, List.reverse_cons, List.append_assoc,
      Nat.ofDigits_append, Nat.ofDigits_append, Nat.ofDigits_singleton, List.singleton_append,
      Nat.ofDigits_cons, Nat.ofDigits_singleton, Option.getD_some, Nat.mul_comm base number,
      Nat.add_comm value]

/-- Reading digit by digit gives the number by place value. -/
theorem ofDigits_eq_of_denote {base : Nat} {digits : List Char} {number : Nat} (hbase : base ≤ 16)
    (h : Denote base digits number) : ofDigits base digits = number := by
  obtain ⟨values, hvalues, rfl⟩ := h
  rw [ofDigits, foldl_eq_of_digits hbase hvalues, Nat.ofDigits_append, Nat.ofDigits_singleton,
    Nat.mul_zero, Nat.add_zero]

/-- Digits of a base denote the number that is read from them. -/
theorem denote_of_forall_isDigit {base : Nat} {digits : List Char} (hbase : base ≤ 16)
    (h : ∀ c ∈ digits, isDigit base c = true) : Denote base digits (ofDigits base digits) := by
  have hvalues : ∃ values, List.Forall₂ (IsDigitFor base) digits values := by
    induction digits with
    | nil => exact ⟨[], .nil⟩
    | cons c digits ih =>
      obtain ⟨value, hvalue⟩ := (isDigit_iff hbase).mp (h c List.mem_cons_self)
      obtain ⟨values, hvalues⟩ := ih fun d hd => h d (List.mem_cons_of_mem _ hd)
      exact ⟨value :: values, .cons hvalue hvalues⟩
  obtain ⟨values, hvalues⟩ := hvalues
  have hdenote : Denote base digits (Nat.ofDigits base values.reverse) := ⟨values, hvalues, rfl⟩
  rwa [ofDigits_eq_of_denote hbase hdenote]

/-- What denotes a number in a base consists of digits of the base. -/
theorem Denote.forall_isDigit {base : Nat} {digits : List Char} {number : Nat}
    (hbase : base ≤ 16) (h : Denote base digits number) : ∀ c ∈ digits, isDigit base c = true := by
  obtain ⟨values, hvalues, -⟩ := h
  induction hvalues with
  | nil => simp
  | cons hvalue _ ih =>
    intro c hc
    rcases List.mem_cons.mp hc with rfl | hc
    · exact (isDigit_iff hbase).mpr ⟨_, hvalue⟩
    · exact ih c hc

/-- The digits of a number, in any letter case, denote it. -/
theorem denote_of_map_toLower {base number : Nat} {digits : List Char} (hlow : 2 ≤ base)
    (hhigh : base ≤ 16) (h : digits.map Char.toLower = toDigits base number) :
    digits ≠ [] ∧ Denote base digits number := by
  have hnonempty : digits ≠ [] := by
    rintro rfl
    exact toDigits_ne_nil base number h.symm
  have hvalid : ∀ c ∈ digits, isDigit base c = true := by
    intro c hc
    have hmem : c.toLower ∈ toDigits base number := h ▸ List.mem_map_of_mem hc
    rw [← isDigit_toLower]
    exact List.all_eq_true.mp (all_isDigit_toDigits base number hlow hhigh) _ hmem
  have hvalue : ofDigits base digits = number := by
    rw [← ofDigits_map_toLower, h, ofDigits_toDigits base number hlow hhigh]
  exact ⟨hnonempty, hvalue ▸ denote_of_forall_isDigit hhigh hvalid⟩

end Digits

namespace Quantity

open Digits (Denote)

/-! ## Texts -/

/-- How a number is written: in decimal digits, or in hex digits behind a marker. -/
inductive IsNumeral : List Char → Nat → Prop
  | decimal {digits : List Char} {number : Nat} (nonempty : digits ≠ [])
      (value : Denote 10 digits number) : IsNumeral digits number
  | hex {mark : Char} {digits : List Char} {number : Nat} (marked : mark = 'x' ∨ mark = 'X')
      (nonempty : digits ≠ []) (value : Denote 16 digits number) :
      IsNumeral ('0' :: mark :: digits) number

/-- A text writes a number: apart from white space around it, it is a numeral. -/
def IsWritten (text : List Char) (number : Nat) : Prop :=
  ∃ before numeral after, Text.Blank before ∧ Text.Blank after ∧ IsNumeral numeral number ∧
    text = before ++ (numeral ++ after)

/-- The number by place value is the number that is read. -/
theorem isWritten_iff_denotes {text : List Char} {number : Nat} :
    IsWritten text number ↔ Denotes text number := by
  constructor
  · rintro ⟨before, numeral, after, hbefore, hafter, hnumeral, rfl⟩
    cases hnumeral with
    | decimal nonempty value =>
      rw [← Digits.ofDigits_eq_of_denote (by omega) value]
      exact .decimal hbefore hafter nonempty (value.forall_isDigit (by omega))
    | hex marked nonempty value =>
      rw [← Digits.ofDigits_eq_of_denote (by omega) value]
      exact .hex hbefore hafter marked nonempty (value.forall_isDigit (by omega))
  · intro h
    cases h with
    | decimal blankBefore blankAfter nonempty valid =>
      exact ⟨_, _, _, blankBefore, blankAfter,
        .decimal nonempty (Digits.denote_of_forall_isDigit (by omega) valid), rfl⟩
    | hex blankBefore blankAfter marked nonempty valid =>
      exact ⟨_, _, _, blankBefore, blankAfter,
        .hex marked nonempty (Digits.denote_of_forall_isDigit (by omega) valid), rfl⟩

/-- A text writes at most one number. -/
theorem IsWritten.unique {text : List Char} {first second : Nat} (hfirst : IsWritten text first)
    (hsecond : IsWritten text second) : first = second :=
  (isWritten_iff_denotes.mp hfirst).unique (isWritten_iff_denotes.mp hsecond)

/-- What reading a text comes to: its number, if that fits; a refusal of the text as too large, if
it does not; a refusal of the text as such, if it writes no number. -/
theorem ofText_cases (text : String) :
    (∃ quantity, ofText text = .ok quantity ∧ IsWritten text.toList quantity.toNat) ∨
    (ofText text = .error (.overflow text) ∧
      ∃ number, IsWritten text.toList number ∧ 2 ^ 256 ≤ number) ∨
    (ofText text = .error (.unparseable text) ∧ ∀ number, ¬ IsWritten text.toList number) := by
  have hcapacity : Digits.capacity 2 256 = 2 ^ 256 := rfl
  rcases hsplit : split (Text.trim text.toList) with ⟨base, digits⟩
  have hcheck : (digits.isEmpty || !digits.all (Digits.isDigit base)) = false ↔
      digits ≠ [] ∧ ∀ c ∈ digits, Digits.isDigit base c = true := by
    rw [Bool.or_eq_false_iff, Bool.not_eq_false', List.all_eq_true, List.isEmpty_eq_false_iff]
  simp only [isWritten_iff_denotes, denotes_iff_of_split hsplit]
  by_cases hvalid : digits ≠ [] ∧ ∀ c ∈ digits, Digits.isDigit base c = true
  · have haccepted := hcheck.mpr hvalid
    by_cases hbound : Digits.ofDigits base digits < Digits.capacity 2 256
    · refine Or.inl ⟨⟨_, hbound⟩, ?_, hvalid.1, hvalid.2, rfl⟩
      simp only [ofText, hsplit, haccepted, Bool.false_eq_true, if_false, dif_pos hbound]
    · refine Or.inr (Or.inl ⟨?_, _, ⟨hvalid.1, hvalid.2, rfl⟩, ?_⟩)
      · simp only [ofText, hsplit, haccepted, Bool.false_eq_true, if_false, dif_neg hbound]
      · rw [← hcapacity]
        exact Nat.le_of_not_lt hbound
  · have hrefused : (digits.isEmpty || !digits.all (Digits.isDigit base)) = true := by
      rw [← Bool.not_eq_false, hcheck]
      exact hvalid
    refine Or.inr (Or.inr ⟨?_, ?_⟩)
    · simp only [ofText, hsplit, hrefused, if_true]
    · rintro number ⟨hnonempty, hdigits, -⟩
      exact hvalid ⟨hnonempty, hdigits⟩

/-- A quantity is below the bound. -/
theorem toNat_lt_pow (quantity : Quantity) : quantity.toNat < 2 ^ 256 := quantity.toNat_lt

/-- A text is accepted as the quantity that it writes. -/
theorem ofText_eq_ok_iff_isWritten {text : String} {quantity : Quantity} :
    ofText text = .ok quantity ↔ IsWritten text.toList quantity.toNat := by
  rw [ofText_eq_ok_iff, isWritten_iff_denotes]

/-- A text is refused as too large when it writes a number above the bound, and as such when it
writes none. The refusal names the text. -/
theorem ofText_eq_error_iff {text : String} {cause : QuantityError} :
    ofText text = .error cause ↔
      cause = .overflow text ∧ (∃ number, IsWritten text.toList number ∧ 2 ^ 256 ≤ number) ∨
      cause = .unparseable text ∧ ∀ number, ¬ IsWritten text.toList number := by
  rcases ofText_cases text with ⟨quantity, hread, hwritten⟩ | ⟨hread, number, hwritten, hlarge⟩ |
    ⟨hread, hnone⟩
  · rw [hread]
    constructor
    · intro h
      cases h
    · rintro (⟨-, number, hnumber, hlarge⟩ | ⟨-, hnone⟩)
      · have hbound := quantity.toNat_lt_pow
        rw [hwritten.unique hnumber] at hbound
        omega
      · exact absurd hwritten (hnone _)
  · rw [hread, Except.error.injEq, eq_comm]
    constructor
    · intro h
      exact Or.inl ⟨h, number, hwritten, hlarge⟩
    · rintro (⟨h, -⟩ | ⟨-, hnone⟩)
      · exact h
      · exact absurd hwritten (hnone number)
  · rw [hread, Except.error.injEq, eq_comm]
    constructor
    · intro h
      exact Or.inr ⟨h, hnone⟩
    · rintro (⟨-, number, hwritten, -⟩ | ⟨h, -⟩)
      · exact absurd hwritten (hnone number)
      · exact h

/-! ## Written numbers in any letter case -/

/-- The decimal text and the hex text of a number, in any letter case, are numerals for it. -/
theorem isNumeral_of_map_toLower {text : List Char} {number : Nat}
    (h : text.map Char.toLower = Digits.decimal number ∨
      text.map Char.toLower = '0' :: 'x' :: Digits.hex number) : IsNumeral text number := by
  rcases h with h | h
  · obtain ⟨hnonempty, hvalue⟩ := Digits.denote_of_map_toLower (by omega) (by omega) h
    exact .decimal hnonempty hvalue
  · obtain ⟨digits, hmarker, hdigits⟩ := Hex.afterMarker?_of_toLower h
    obtain ⟨hnonempty, hvalue⟩ := Digits.denote_of_map_toLower (by omega) (by omega) hdigits
    have hsplit : split text = (16, digits) := by rw [split, hmarker]
    rcases split_cases text with hdecimal | ⟨mark, rest, hmark, rfl, hhex⟩
    · rw [hdecimal] at hsplit
      cases hsplit
    · rw [hhex] at hsplit
      cases hsplit
      exact .hex hmark hnonempty hvalue

/-- A numeral by itself is a text that writes its number. -/
theorem IsNumeral.isWritten {text : List Char} {number : Nat} (h : IsNumeral text number) :
    IsWritten text number :=
  ⟨[], text, [], Text.blank_nil, Text.blank_nil, h, by simp⟩

end Quantity

/-! ## JSON numbers -/

namespace Json.Numeral

/-- The characters of a literal that are no digits: its signs, its point, and the letter before an
exponent. -/
def marks : List Char := ['-', '+', '.', 'e', 'E']

/-- A literal goes on with digits and marks only. -/
theorem mem_of_step {phase next : Phase} {c : Char} (h : phase.step c = .next next) :
    isDigit c = true ∨ c ∈ marks := by
  by_contra hnot
  rw [not_or, Bool.not_eq_true, marks] at hnot
  obtain ⟨hdigit, hmarks⟩ := hnot
  simp only [List.mem_cons, List.not_mem_nil, or_false, not_or] at hmarks
  obtain ⟨hminus, hplus, hpoint, he, hE⟩ := hmarks
  have hzero : c ≠ '0' := by
    rintro rfl
    cases hdigit
  cases phase <;> simp [Phase.step, hdigit, hminus, hplus, hpoint, he, hE, hzero] at h

/-- What goes on as a literal consists of digits and marks. -/
theorem mem_of_checkFrom {phase : Phase} {text : List Char} (h : checkFrom phase text = .ok ()) :
    ∀ c ∈ text, isDigit c = true ∨ c ∈ marks := by
  induction text generalizing phase with
  | nil => simp
  | cons c text ih =>
    rw [checkFrom] at h
    split at h
    · next next hstep =>
      intro d hd
      rcases List.mem_cons.mp hd with rfl | hd
      · exact mem_of_step hstep
      · exact ih h d hd
    · cases h
    · cases h

/-- A literal starts with a digit or a mark. -/
theorem mem_of_start? {c : Char} {phase : Phase} (h : Phase.start? c = some phase) :
    isDigit c = true ∨ c ∈ marks := by
  unfold Phase.start? at h
  split at h
  · next hminus => exact Or.inr (hminus ▸ List.mem_cons_self)
  split at h
  · next hzero => exact Or.inl (hzero ▸ rfl)
  split at h
  · next hdigit => exact Or.inl hdigit
  · cases h

/-- A literal is not empty, and consists of digits and marks. -/
theorem mem_of_check {text : List Char} (h : check text = .ok ()) :
    text ≠ [] ∧ ∀ c ∈ text, isDigit c = true ∨ c ∈ marks := by
  cases text with
  | nil => cases h
  | cons c text =>
    refine ⟨List.cons_ne_nil _ _, ?_⟩
    rw [check] at h
    split at h
    · next phase hstart =>
      intro d hd
      rcases List.mem_cons.mp hd with rfl | hd
      · exact mem_of_start? hstart
      · exact mem_of_checkFrom h d hd
    · cases h

/-- The digits of literals are the decimal digits. -/
theorem isDigit_iff {c : Char} : isDigit c = true ↔ Digits.isDigit 10 c = true := by
  have hcode : isDigit c = true ↔ 48 ≤ c.toNat ∧ c.toNat ≤ 57 := by
    rw [isDigit, Bool.and_eq_true, decide_eq_true_iff, decide_eq_true_iff]
    exact Iff.rfl
  have hzero : '0'.toNat = 48 := rfl
  rw [hcode, Digits.isDigit_iff (by omega)]
  constructor
  · rintro ⟨hlow, hhigh⟩
    exact ⟨c.toNat - 48, by omega, Or.inl ⟨by omega, by omega⟩⟩
  · rintro ⟨value, hvalue, h⟩
    omega

/-- Neither digits nor marks are white space. -/
theorem isBlank_of_mem {c : Char} (h : isDigit c = true ∨ c ∈ marks) : Text.isBlank c = false := by
  rcases h with hdigit | hmark
  · exact Quantity.isBlank_of_isDigit (isDigit_iff.mp hdigit)
  · have all : (marks.all fun mark => !Text.isBlank mark) = true := by decide
    have hblank := List.all_eq_true.mp all c hmark
    rwa [Bool.not_eq_true'] at hblank

/-- No mark is a digit. -/
theorem isDigit_of_mem_marks {c : Char} (h : c ∈ marks) : isDigit c = false := by
  have all : (marks.all fun mark => !isDigit mark) = true := by decide
  have hdigit := List.all_eq_true.mp all c h
  rwa [Bool.not_eq_true'] at hdigit

/-- The letter behind which hex digits stand is neither a digit nor a mark. -/
theorem not_mem_of_marker {mark : Char} (h : mark = 'x' ∨ mark = 'X') :
    ¬ (isDigit mark = true ∨ mark ∈ marks) := by
  rcases h with rfl | rfl <;> decide

end Json.Numeral

namespace Quantity

open Json.Numeral (marks)
open Digits (Denote)

/-- A literal without marks consists of decimal digits, and denotes the number that they denote. -/
theorem exists_denote_of_check {literal : List Char} (h : Json.Numeral.check literal = .ok ())
    (hmarks : ∀ c ∈ literal, c ∉ marks) :
    literal ≠ [] ∧ ∃ number, Denote 10 literal number := by
  obtain ⟨hnonempty, hmem⟩ := Json.Numeral.mem_of_check h
  refine ⟨hnonempty, _, Digits.denote_of_forall_isDigit (by omega) ?_⟩
  intro c hc
  rcases hmem c hc with hdigit | hmark
  · exact Json.Numeral.isDigit_iff.mp hdigit
  · exact absurd hmark (hmarks c hc)

/-- A literal writes a number only if it consists of its decimal digits. -/
theorem denote_of_isWritten {literal : List Char} {number : Nat}
    (h : Json.Numeral.check literal = .ok ()) (hwritten : IsWritten literal number) :
    (∀ c ∈ literal, c ∉ marks) ∧ Denote 10 literal number := by
  obtain ⟨-, hmem⟩ := Json.Numeral.mem_of_check h
  obtain ⟨before, numeral, after, hbefore, hafter, hnumeral, rfl⟩ := hwritten
  -- There is no white space in a literal.
  have hnone : ∀ padding, Text.Blank padding → (∀ c ∈ padding, c ∈ before ++ (numeral ++ after)) →
      padding = [] := by
    intro padding hblank hpadding
    rw [List.eq_nil_iff_forall_not_mem]
    intro c hc
    have hc' := Json.Numeral.isBlank_of_mem (hmem c (hpadding c hc))
    rw [hblank c hc] at hc'
    cases hc'
  obtain rfl := hnone before hbefore fun c hc => List.mem_append_left _ hc
  obtain rfl := hnone after hafter fun c hc => List.mem_append_right _ (List.mem_append_right _ hc)
  rw [List.append_nil, List.nil_append] at hmem ⊢
  cases hnumeral with
  | decimal nonempty value =>
    refine ⟨?_, value⟩
    intro c hc hmark
    have hdigit := Json.Numeral.isDigit_iff.mpr (value.forall_isDigit (by omega) c hc)
    rw [Json.Numeral.isDigit_of_mem_marks hmark] at hdigit
    cases hdigit
  | hex marked nonempty value =>
    exact absurd (hmem _ (by simp)) (Json.Numeral.not_mem_of_marker marked)

/-- A JSON number is accepted exactly when its literal has no marks, as the number that the literal
denotes. -/
theorem ofJson_number_eq_ok_iff {literal : String}
    (h : Json.Numeral.check literal.toList = .ok ()) {quantity : Quantity} :
    ofJson (.number literal) = .ok quantity ↔
      (∀ c ∈ literal.toList, c ∉ marks) ∧ Denote 10 literal.toList quantity.toNat := by
  show ofText literal = .ok quantity ↔ _
  rw [ofText_eq_ok_iff_isWritten]
  constructor
  · intro hwritten
    exact denote_of_isWritten h hwritten
  · rintro ⟨hmarks, hvalue⟩
    exact (IsNumeral.decimal (exists_denote_of_check h hmarks).1 hvalue).isWritten

/-- **Quantities.** A text is accepted exactly as the number that it writes, in decimal digits or in
hex digits behind a marker, if it is below the bound. It is refused as too large when it writes a
number above the bound, and as no quantity when it writes none; both refusals name the text as it
was given. A JSON string is read as its text and a JSON number by its literal, which is accepted
when it has neither sign nor fraction nor exponent and is below the bound; any other value is
refused by its type. Every quantity is read from its decimal text and its hex text, in any letter
case. -/
theorem reads_written_numbers :
    (∀ text quantity, ofText text = .ok quantity ↔ IsWritten text.toList quantity.toNat) ∧
    (∀ text cause, ofText text = .error cause ↔
      cause = .overflow text ∧ (∃ number, IsWritten text.toList number ∧ 2 ^ 256 ≤ number) ∨
      cause = .unparseable text ∧ ∀ number, ¬ IsWritten text.toList number) ∧
    (∀ text, ofJson (.string text) = ofText text) ∧
    (∀ literal, ofJson (.number literal) = ofText literal) ∧
    (∀ literal, Json.Numeral.check literal.toList = .ok () →
      (∀ quantity, ofJson (.number literal) = .ok quantity ↔
        (∀ c ∈ literal.toList, c ∉ marks) ∧ Denote 10 literal.toList quantity.toNat) ∧
      ((∃ quantity, ofJson (.number literal) = .ok quantity) ↔
        (∀ c ∈ literal.toList, c ∉ marks) ∧
          ∃ number, Denote 10 literal.toList number ∧ number < 2 ^ 256) ∧
      ((∀ c ∈ literal.toList, c ∉ marks) → ∃ number, Denote 10 literal.toList number)) ∧
    (∀ value : Json, (∀ text, value ≠ .string text) → (∀ literal, value ≠ .number literal) →
      ofJson value = .error (.unexpectedType value.typeName)) ∧
    (∀ quantity text, text.toList.map Char.toLower = Digits.decimal quantity.toNat ∨
        text.toList.map Char.toLower = '0' :: 'x' :: Digits.hex quantity.toNat →
      ofText text = .ok quantity) := by
  refine ⟨fun _ _ => ofText_eq_ok_iff_isWritten, fun _ _ => ofText_eq_error_iff, fun _ => rfl,
    fun _ => rfl, ?_, ?_, ?_⟩
  · intro literal h
    refine ⟨fun _ => ofJson_number_eq_ok_iff h, ?_, fun hmarks =>
      (exists_denote_of_check h hmarks).2⟩
    constructor
    · rintro ⟨quantity, hread⟩
      obtain ⟨hmarks, hvalue⟩ := (ofJson_number_eq_ok_iff h).mp hread
      exact ⟨hmarks, quantity.toNat, hvalue, quantity.toNat_lt_pow⟩
    · rintro ⟨hmarks, number, hvalue, hbound⟩
      exact ⟨⟨number, hbound⟩, (ofJson_number_eq_ok_iff h).mpr ⟨hmarks, hvalue⟩⟩
  · intro value hstring hnumber
    cases value with
    | string text => exact absurd rfl (hstring text)
    | number literal => exact absurd rfl (hnumber literal)
    | null | bool | array | object => rfl
  · intro quantity text h
    exact ofText_eq_ok_iff_isWritten.mpr (isNumeral_of_map_toLower h).isWritten

/-- White space inside is no part of a number. -/
example : ofText " 1 2 " = .error (.unparseable " 1 2 ") := by decide

/-- The largest quantity is accepted, with leading zeros as well. -/
example : ofText ("0X00" ++ String.ofList (List.replicate 64 'F')) =
    .ok ⟨2 ^ 256 - 1, by decide⟩ := by decide +kernel

end Quantity

end TxGateway
