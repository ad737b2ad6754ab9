import TxGateway.Quantity
import TxGateway.Proofs.HexText
/-!
# Quantities and their texts

`Quantity.IsMinimalText` says what the canonical text of a number is: the marker `0x` and its hex
digits in lower case, without leading zeros, zero as the one digit it needs. Quantities and gas
limits are written so, and what is written is read back.
-/

namespace TxGateway

namespace Digits

/-- A number has digits. -/
theorem toDigits_ne_nil (base number : Nat) : toDigits base number ≠ [] := by
  rw [toDigits]
  split
  · exact List.append_ne_nil_of_right_ne_nil _ (List.cons_ne_nil _ _)
  · exact List.cons_ne_nil _ _

/-- What is written for a number are digits for numbers below the base. -/
theorem exists_digitChar_of_mem_toDigits {base number : Nat} (hlow : 2 ≤ base) :
    ∀ c ∈ toDigits base number, ∃ digit < base, c = Nat.digitChar digit := by
  induction number using Nat.strongRecOn with
  | ind number ih =>
    intro c hc
    rw [toDigits] at hc
    split at hc
    · next h =>
      rcases List.mem_append.mp hc with hc | hc
      · exact ih (number / base) (Nat.div_lt_self (by omega) (by omega)) c hc
      · exact ⟨number % base, Nat.mod_lt number (by omega), List.mem_singleton.mp hc⟩
    · next h => exact ⟨number, by omega, List.mem_singleton.mp hc⟩

/-- A digit of a base up to sixteen, as it is written, is in lower case. -/
theorem isLowerDigit_of_mem_toDigits {base number : Nat} (hlow : 2 ≤ base) (hhigh : base ≤ 16) :
    ∀ c ∈ toDigits base number, Hex.isLowerDigit c = true := by
  intro c hc
  obtain ⟨digit, hdigit, rfl⟩ := exists_digitChar_of_mem_toDigits hlow c hc
  exact Hex.isLowerDigit_digitChar (by omega)

/-- The digit for a number below sixteen is zero only for zero. -/
theorem digitChar_ne_zero {number : Nat} (hpos : 0 < number) (h : number < 16) :
    Nat.digitChar number ≠ '0' := by
  have all : ∀ n, n < 16 → 0 < n → Nat.digitChar n ≠ '0' := by decide
  exact all number h hpos

/-- A positive number starts with a digit other than zero. -/
theorem head_toDigits_ne_zero {base number : Nat} (hlow : 2 ≤ base) (hhigh : base ≤ 16)
    (hpos : 0 < number) : ∃ c rest, toDigits base number = c :: rest ∧ c ≠ '0' := by
  induction number using Nat.strongRecOn with
  | ind number ih =>
    rw [toDigits]
    split
    · next h =>
      have hsmaller : number / base < number := Nat.div_lt_self (by omega) (by omega)
      obtain ⟨c, rest, hdigits, hc⟩ := ih (number / base) hsmaller (Nat.div_pos h.2 (by omega))
      exact ⟨c, rest ++ [Nat.digitChar (number % base)], by rw [hdigits]; rfl, hc⟩
    · next h =>
      exact ⟨Nat.digitChar number, [], rfl, digitChar_ne_zero hpos (by omega)⟩

/-- Letter case does not change the value of a digit. -/
theorem value?_toLower (c : Char) : value? c.toLower = value? c := by
  by_cases hascii : c.toNat < 128
  · have all : ∀ code, code < 128 →
        value? (Char.ofNat code).toLower = value? (Char.ofNat code) := by decide +kernel
    have hc := all c.toNat hascii
    rwa [Char.ofNat_toNat] at hc
  · have hsame : c.toLower = c := by
      unfold Char.toLower
      refine dif_neg ?_
      rintro ⟨-, hupper⟩
      have hcode : c.toNat ≤ 90 := hupper
      omega
    rw [hsame]

/-- Letter case makes no digit. -/
theorem isDigit_toLower (base : Nat) (c : Char) : isDigit base c.toLower = isDigit base c := by
  rw [isDigit, isDigit, value?_toLower]

/-- Letter case does not change the number that digits denote. -/
theorem ofDigits_map_toLower (base : Nat) (digits : List Char) :
    ofDigits base (digits.map Char.toLower) = ofDigits base digits := by
  simp only [ofDigits, List.foldl_map, value?_toLower]

/-- Leading zeros do not change the number that digits denote. -/
theorem ofDigits_zeros (base count : Nat) (digits : List Char) :
    ofDigits base (List.replicate count '0' ++ digits) = ofDigits base digits := by
  induction count with
  | zero => rfl
  | succ count ih =>
    have hzero : 0 * base + (value? '0').getD 0 = 0 := by
      rw [Nat.zero_mul]
      rfl
    rw [List.replicate_succ, List.cons_append, ofDigits, List.foldl_cons, hzero]
    exact ih

end Digits

namespace Quantity

/-- The canonical text of a number: the marker `0x`, and its hex digits in lower case without
leading zeros; zero is `0x0`. -/
def IsMinimalText (text : String) (number : Nat) : Prop :=
  ∃ digits, text.toList = '0' :: 'x' :: digits ∧
    (∀ c ∈ digits, Hex.isLowerDigit c = true) ∧
    (digits = ['0'] ∨ ∃ c rest, digits = c :: rest ∧ c ≠ '0') ∧
    Digits.ofDigits 16 digits = number

/-- Hex digits behind the marker are the canonical text of their number. -/
theorem isMinimalText_hex (number : Nat) :
    IsMinimalText (String.ofList ('0' :: 'x' :: Digits.hex number)) number := by
  refine ⟨Digits.hex number, by simp, ?_, ?_, ?_⟩
  · exact Digits.isLowerDigit_of_mem_toDigits (by omega) (by omega)
  · rcases Nat.eq_zero_or_pos number with rfl | hpos
    · exact Or.inl (by rw [Digits.hex, Digits.toDigits]; rfl)
    · exact Or.inr (Digits.head_toDigits_ne_zero (by omega) (by omega) hpos)
  · exact Digits.ofDigits_toDigits 16 number (by omega) (by omega)

/-- A quantity is written as its canonical text. -/
theorem isMinimalText_text (quantity : Quantity) : IsMinimalText quantity.text quantity.toNat :=
  isMinimalText_hex quantity.toNat

/-- A digit in lower case is a hex digit. -/
theorem isDigit_of_isLowerDigit {c : Char} (h : Hex.isLowerDigit c = true) :
    Digits.isDigit 16 c = true := by
  simp only [Hex.isLowerDigit, Bool.or_eq_true, Bool.and_eq_true, decide_eq_true_eq] at h
  unfold Digits.isDigit Digits.value?
  rcases h with ⟨hlow, hhigh⟩ | ⟨hlow, hhigh⟩
  · rw [if_pos ⟨hlow, hhigh⟩]
    have hcode : c.toNat ≤ 57 := hhigh
    show decide (c.toNat - 48 < 16) = true
    rw [decide_eq_true_iff]
    omega
  · have hcode : 97 ≤ c.toNat := hlow
    have hbound : c.toNat ≤ 102 := hhigh
    have hletter : ¬ ('0' ≤ c ∧ c ≤ '9') := by
      rintro ⟨-, h⟩
      have : c.toNat ≤ 57 := h
      omega
    rw [if_neg hletter, if_pos ⟨hlow, hhigh⟩]
    show decide (c.toNat - 97 + 10 < 16) = true
    rw [decide_eq_true_iff]
    omega

/-! ## Texts that denote numbers -/

/-- A text denotes a number: in decimal digits, or in hex digits behind a marker, with white space
around it. Leading zeros and letter case are free. -/
inductive Denotes : List Char → Nat → Prop
  | decimal {before digits after : List Char} (blankBefore : Text.Blank before)
      (blankAfter : Text.Blank after) (nonempty : digits ≠ [])
      (valid : ∀ c ∈ digits, Digits.isDigit 10 c = true) :
      Denotes (before ++ (digits ++ after)) (Digits.ofDigits 10 digits)
  | hex {before digits after : List Char} {mark : Char} (blankBefore : Text.Blank before)
      (blankAfter : Text.Blank after) (marked : mark = 'x' ∨ mark = 'X') (nonempty : digits ≠ [])
      (valid : ∀ c ∈ digits, Digits.isDigit 16 c = true) :
      Denotes (before ++ (('0' :: mark :: digits) ++ after)) (Digits.ofDigits 16 digits)

/-- How a trimmed text is split: it is decimal as a whole, or hex behind a marker. -/
theorem split_cases (text : List Char) :
    split text = (10, text) ∨ ∃ mark digits, (mark = 'x' ∨ mark = 'X') ∧
      text = '0' :: mark :: digits ∧ split text = (16, digits) := by
  unfold split Hex.afterMarker?
  split
  · next digits h =>
    split at h
    · cases h
      exact Or.inr ⟨'x', digits, Or.inl rfl, rfl, rfl⟩
    · cases h
      exact Or.inr ⟨'X', digits, Or.inr rfl, rfl, rfl⟩
    · cases h
  · exact Or.inl rfl

/-- A text is read as the number of its digits, if it has some and all are digits of the base. -/
theorem ofText_eq_ok_iff_of_split {text : String} {base : Nat} {digits : List Char}
    (h : split (Text.trim text.toList) = (base, digits)) {quantity : Quantity} :
    ofText text = .ok quantity ↔ digits ≠ [] ∧ (∀ c ∈ digits, Digits.isDigit base c = true) ∧
      Digits.ofDigits base digits = quantity.toNat := by
  unfold ofText
  rw [h]
  dsimp only
  by_cases hvalid : digits.isEmpty || !digits.all (Digits.isDigit base)
  · rw [if_pos hvalid]
    constructor
    · intro h
      cases h
    · rintro ⟨hnonempty, hdigits, -⟩
      have hall : digits.all (Digits.isDigit base) = true := List.all_eq_true.mpr hdigits
      simp [hall, hnonempty] at hvalid
  · rw [if_neg hvalid]
    simp only [Bool.or_eq_true, List.isEmpty_iff, Bool.not_eq_true', not_or, Bool.not_eq_false,
      List.all_eq_true] at hvalid
    by_cases hbound : Digits.ofDigits base digits < Digits.capacity 2 256
    · rw [dif_pos hbound]
      constructor
      · intro h
        cases h
        exact ⟨hvalid.1, hvalid.2, rfl⟩
      · rintro ⟨-, -, hvalue⟩
        exact congrArg Except.ok (Quantity.ext hvalue)
    · rw [dif_neg hbound]
      constructor
      · intro h
        cases h
      · rintro ⟨-, -, hvalue⟩
        exact absurd (hvalue ▸ quantity.toNat_lt) hbound

/-- No digit is white space. -/
theorem isBlank_of_isDigit {base : Nat} {c : Char} (h : Digits.isDigit base c = true) :
    Text.isBlank c = false := Text.isBlank_of_code (Digits.code_of_isDigit h)

/-- Neither is a character of a marked text. -/
theorem isBlank_of_marked {mark : Char} (hmark : mark = 'x' ∨ mark = 'X') {digits : List Char}
    (hdigits : ∀ c ∈ digits, Digits.isDigit 16 c = true) :
    ∀ c ∈ '0' :: mark :: digits, Text.isBlank c = false := by
  intro c hc
  rcases List.mem_cons.mp hc with rfl | hc
  · decide
  rcases List.mem_cons.mp hc with rfl | hc
  · rcases hmark with rfl | rfl <;> decide
  · exact isBlank_of_isDigit (hdigits c hc)

/-- A text denotes the number of its digits, if it has some and all are digits of the base. -/
theorem denotes_iff_of_split {text : List Char} {base : Nat} {digits : List Char}
    (h : split (Text.trim text) = (base, digits)) {number : Nat} :
    Denotes text number ↔ digits ≠ [] ∧ (∀ c ∈ digits, Digits.isDigit base c = true) ∧
      Digits.ofDigits base digits = number := by
  constructor
  · intro hdenotes
    cases hdenotes with
    | @decimal before core after blankBefore blankAfter nonempty valid =>
      rw [Text.trim_padded blankBefore blankAfter fun c hc => isBlank_of_isDigit (valid c hc)] at h
      -- The letter of a marker is no decimal digit.
      have hsplit : split core = (10, core) := by
        rcases split_cases core with hsplit | ⟨mark, rest, hmark, rfl, -⟩
        · exact hsplit
        · have hdigit := valid mark (by simp)
          rcases hmark with rfl | rfl <;> cases hdigit
      rw [hsplit] at h
      cases h
      exact ⟨nonempty, valid, rfl⟩
    | @hex before core after mark blankBefore blankAfter marked nonempty valid =>
      rw [Text.trim_padded blankBefore blankAfter (isBlank_of_marked marked valid)] at h
      have hsplit : split ('0' :: mark :: core) = (16, core) := by
        rcases marked with rfl | rfl <;> rfl
      rw [hsplit] at h
      cases h
      exact ⟨nonempty, valid, rfl⟩
  · rintro ⟨hnonempty, hvalid, rfl⟩
    obtain ⟨before, after, hbefore, hafter, htext⟩ := Text.exists_padding text
    rw [htext]
    rcases split_cases (Text.trim text) with hsplit | ⟨mark, core, hmark, htrim, hsplit⟩
    · rw [hsplit] at h
      cases h
      exact .decimal hbefore hafter hnonempty hvalid
    · rw [hsplit] at h
      cases h
      rw [htrim]
      exact .hex hbefore hafter hmark hnonempty hvalid

/-- A text denotes at most one number. -/
theorem Denotes.unique {text : List Char} {first second : Nat} (hfirst : Denotes text first)
    (hsecond : Denotes text second) : first = second := by
  rcases hsplit : split (Text.trim text) with ⟨base, digits⟩
  rw [denotes_iff_of_split hsplit] at hfirst hsecond
  exact hfirst.2.2.symm.trans hsecond.2.2

/-- **Reading a quantity.** A text is read as the quantity that it denotes. -/
theorem ofText_eq_ok_iff {text : String} {quantity : Quantity} :
    ofText text = .ok quantity ↔ Denotes text.toList quantity.toNat := by
  rcases hsplit : split (Text.trim text.toList) with ⟨base, digits⟩
  rw [ofText_eq_ok_iff_of_split hsplit, denotes_iff_of_split hsplit]

/-! ## Other spellings of a number -/

/-- Texts that differ only in letter case have the same digits but for letter case, in the same
base. -/
theorem split_of_map_toLower {first second : List Char}
    (h : first.map Char.toLower = second.map Char.toLower) :
    (split first).1 = (split second).1 ∧
      (split first).2.map Char.toLower = (split second).2.map Char.toLower := by
  -- A marker in one text is a marker in the other, by its form in lower case.
  have hmarked : ∀ {text other digits : List Char}, text.map Char.toLower = other.map Char.toLower →
      ∀ {mark : Char}, mark = 'x' ∨ mark = 'X' → text = '0' :: mark :: digits →
        ∃ rest, split other = (16, rest) ∧ rest.map Char.toLower = digits.map Char.toLower := by
    rintro text other digits hsame mark hmark rfl
    have hlower : other.map Char.toLower = '0' :: 'x' :: digits.map Char.toLower := by
      rw [← hsame]
      rcases hmark with rfl | rfl <;> rfl
    obtain ⟨rest, hrest, hdigits⟩ := Hex.afterMarker?_of_toLower hlower
    exact ⟨rest, by rw [split, hrest], hdigits⟩
  rcases split_cases first with hfirst | ⟨mark, digits, hmark, htext, hfirst⟩
  · rcases split_cases second with hsecond | ⟨mark, digits, hmark, htext, -⟩
    · rw [hfirst, hsecond]
      exact ⟨rfl, h⟩
    · obtain ⟨rest, hrest, -⟩ := hmarked h.symm hmark htext
      rw [hfirst] at hrest
      cases hrest
  · obtain ⟨rest, hrest, hdigits⟩ := hmarked h hmark htext
    rw [hfirst, hrest]
    exact ⟨rfl, hdigits.symm⟩

/-- Letter case and white space around a text do not change the number that it denotes. -/
theorem Denotes.of_same {first second : String} (h : Text.Same first second) {number : Nat}
    (hdenotes : Denotes first.toList number) : Denotes second.toList number := by
  rcases hfirst : split (Text.trim first.toList) with ⟨base, digits⟩
  rcases hsecond : split (Text.trim second.toList) with ⟨other, rest⟩
  obtain ⟨hbase, hdigits⟩ := split_of_map_toLower h
  rw [hfirst, hsecond] at hbase hdigits
  obtain rfl : base = other := hbase
  have hdigits : digits.map Char.toLower = rest.map Char.toLower := hdigits
  obtain ⟨hnonempty, hvalid, hvalue⟩ := (denotes_iff_of_split hfirst).mp hdenotes
  refine (denotes_iff_of_split hsecond).mpr ⟨?_, ?_, ?_⟩
  · rintro rfl
    exact hnonempty (List.map_eq_nil_iff.mp hdigits)
  · intro c hc
    have hmem : c.toLower ∈ digits.map Char.toLower := hdigits ▸ List.mem_map_of_mem hc
    obtain ⟨digit, hdigit, hsame⟩ := List.mem_map.mp hmem
    rw [← Digits.isDigit_toLower, ← hsame, Digits.isDigit_toLower]
    exact hvalid digit hdigit
  · rw [← Digits.ofDigits_map_toLower, ← hdigits, Digits.ofDigits_map_toLower, hvalue]

/-- A number has spellings in both bases, with any count of leading zeros. -/
theorem denotes_of_zeros (zeros number : Nat) :
    Denotes (List.replicate zeros '0' ++ Digits.decimal number) number ∧
      Denotes ('0' :: 'x' :: (List.replicate zeros '0' ++ Digits.hex number)) number := by
  have hzeros : ∀ {base digits}, 0 < base → digits.all (Digits.isDigit base) = true →
      ∀ c ∈ List.replicate zeros '0' ++ digits, Digits.isDigit base c = true := by
    intro base digits hbase hdigits c hc
    rcases List.mem_append.mp hc with hc | hc
    · rw [List.eq_of_mem_replicate hc]
      exact decide_eq_true hbase
    · exact List.all_eq_true.mp hdigits c hc
  have hnonempty : ∀ base, List.replicate zeros '0' ++ Digits.toDigits base number ≠ [] := by
    intro base
    exact List.append_ne_nil_of_right_ne_nil _ (Digits.toDigits_ne_nil base number)
  constructor
  · have hdenotes := Denotes.decimal Text.blank_nil Text.blank_nil (hnonempty 10)
      (hzeros (by omega) (Digits.all_isDigit_toDigits 10 number (by omega) (by omega)))
    rw [Digits.ofDigits_zeros, Digits.ofDigits_toDigits 10 number (by omega) (by omega)] at hdenotes
    simpa [Digits.decimal] using hdenotes
  · have hdenotes := Denotes.hex Text.blank_nil Text.blank_nil (Or.inl rfl) (hnonempty 16)
      (hzeros (by omega) (Digits.all_isDigit_toDigits 16 number (by omega) (by omega)))
    rw [Digits.ofDigits_zeros, Digits.ofDigits_toDigits 16 number (by omega) (by omega)] at hdenotes
    simpa [Digits.hex] using hdenotes

/-- A JSON value spells a number: by its literal, or as a string. -/
inductive Spelled : Json → Nat → Prop
  | literal {literal : String} {number : Nat} (h : Denotes literal.toList number) :
      Spelled (.number literal) number
  | string {text : String} {number : Nat} (h : Denotes text.toList number) :
      Spelled (.string text) number

/-- A value spells at most one number. -/
theorem Spelled.unique {value : Json} {first second : Nat} (hfirst : Spelled value first)
    (hsecond : Spelled value second) : first = second := by
  cases hfirst with
  | literal hfirst =>
    cases hsecond with
    | literal hsecond => exact hfirst.unique hsecond
  | string hfirst =>
    cases hsecond with
    | string hsecond => exact hfirst.unique hsecond

/-- **Reading a quantity.** A JSON value is read as the quantity that it spells. -/
theorem ofJson_eq_ok_iff {value : Json} {quantity : Quantity} :
    ofJson value = .ok quantity ↔ Spelled value quantity.toNat := by
  cases value with
  | number literal =>
    constructor
    · intro h
      exact .literal (ofText_eq_ok_iff.mp h)
    · intro hspelled
      cases hspelled with
      | literal h => exact ofText_eq_ok_iff.mpr h
  | string text =>
    constructor
    · intro h
      exact .string (ofText_eq_ok_iff.mp h)
    · intro hspelled
      cases hspelled with
      | string h => exact ofText_eq_ok_iff.mpr h
  | null | bool | array | object =>
    constructor <;> rintro ⟨⟩

/-! ## Canonical texts are read back -/

/-- A canonical text of a number of at most 256 bits is read as that quantity. -/
theorem ofText_of_isMinimalText {text : String} {quantity : Quantity}
    (h : IsMinimalText text quantity.toNat) : ofText text = .ok quantity := by
  obtain ⟨digits, htext, hlower, hfirst, hvalue⟩ := h
  have hnonempty : digits ≠ [] := by
    rcases hfirst with rfl | ⟨c, rest, rfl, -⟩ <;> exact List.cons_ne_nil _ _
  have hdenotes := Denotes.hex Text.blank_nil Text.blank_nil (Or.inl rfl) hnonempty
    fun c hc => isDigit_of_isLowerDigit (hlower c hc)
  rw [ofText_eq_ok_iff, htext, ← hvalue]
  simpa using hdenotes

/-- **Reading back.** A quantity is read back from its text. -/
theorem ofText_text (quantity : Quantity) : ofText quantity.text = .ok quantity :=
  ofText_of_isMinimalText (isMinimalText_text quantity)

end Quantity

namespace GasLimit

/-- A gas limit is a quantity. -/
def toQuantity (gas : GasLimit) : Quantity :=
  ⟨gas.toNat, Nat.lt_trans gas.toNat_lt (by decide)⟩

/-- A gas limit is written as the quantity it is. -/
theorem text_toQuantity (gas : GasLimit) : gas.toQuantity.text = gas.text := rfl

/-- A gas limit is written as its canonical text. -/
theorem isMinimalText_text (gas : GasLimit) : Quantity.IsMinimalText gas.text gas.toNat :=
  Quantity.isMinimalText_hex gas.toNat

/-- The quantity of a gas limit fits a gas limit. -/
theorem ofQuantity?_toQuantity (gas : GasLimit) : ofQuantity? gas.toQuantity = some gas := by
  rw [ofQuantity?, dif_pos (show gas.toQuantity.toNat < Digits.capacity 2 64 from gas.toNat_lt)]
  rfl

end GasLimit

end TxGateway
