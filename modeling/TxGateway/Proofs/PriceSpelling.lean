import TxGateway.Proofs.GasPrice
/-!
# Spellings of a number and of a gas price

A number may be a JSON number or a string in either base, with leading zeros or without, in any
letter case and with white space around it. A gas price may be `null` or left out, and so may a
member of it; a price may stand alone or inside an object, and a producer's part of zero may be left
out beside a most.

* `Quantity.Rewritten.spelled_iff` : a quantity that is written in another way is the same number;
* `GasPrice.Rewritten.asks_iff` : a gas price that is written in another way asks for the same fee.
-/

namespace TxGateway

open Json

/-! ## Numbers -/

namespace Quantity

/-- Two values that spell the same number. -/
def Same (first second : Json) : Prop := ∃ number, Spelled first number ∧ Spelled second number

/-- The order of two spellings does not count. -/
theorem Same.symm {first second : Json} (h : Same first second) : Same second first := by
  obtain ⟨number, hfirst, hsecond⟩ := h
  exact ⟨number, hsecond, hfirst⟩

/-- The decimal literal of a number is as good as the strings of its decimal or hex digits with any
count of leading zeros. -/
theorem same_digits (number zeros : Nat) :
    Same (.number (Digits.decimalText number))
        (.string (String.ofList (List.replicate zeros '0' ++ Digits.decimal number))) ∧
      Same (.number (Digits.decimalText number))
        (.string (String.ofList
          ('0' :: 'x' :: (List.replicate zeros '0' ++ Digits.hex number)))) := by
  have hliteral : Denotes (Digits.decimalText number).toList number := by
    have hdecimal := (denotes_of_zeros 0 number).1
    rwa [List.replicate_zero, List.nil_append, ← @String.toList_ofList (Digits.decimal number)]
      at hdecimal
  obtain ⟨hdecimal, hhex⟩ := denotes_of_zeros zeros number
  refine ⟨⟨number, .literal hliteral, .string ?_⟩, ⟨number, .literal hliteral, .string ?_⟩⟩
  · rwa [String.toList_ofList]
  · rwa [String.toList_ofList]

/-- A number that is spelled by a value is spelled by every other spelling of it. -/
theorem Spelled.of_same {first second : Json} {number : Nat} (h : Spelled first number)
    (hsame : Same first second) : Spelled second number := by
  obtain ⟨other, hfirst, hsecond⟩ := hsame
  rwa [h.unique hfirst]

/-- Values that spell the same number spell the same numbers. -/
theorem Same.spelled_iff {first second : Json} (h : Same first second) {number : Nat} :
    Spelled first number ↔ Spelled second number :=
  ⟨fun hfirst => hfirst.of_same h, fun hsecond => hsecond.of_same h.symm⟩

/-- Where a rule judges values by the number that they spell, it judges other spellings alike. -/
theorem rel_of_same {α : Type} {judged : Json → α → Prop} {toNat : α → Nat}
    {first second : Option Json} {contents : Option α} (h : Option.Rel Same first second)
    (hjudged : Option.Rel judged first contents)
    (hspelled : ∀ {value content}, judged value content ↔ Spelled value (toNat content)) :
    Option.Rel judged second contents := by
  refine Fallible.rel_join h hjudged ?_
  intro value other content hsame hvalue
  rw [hspelled] at hvalue ⊢
  exact hvalue.of_same hsame

/-- The ways to write a quantity: in other letter case and with other white space around it, and
instead of its decimal literal by the string of its decimal or hex digits, with leading zeros. -/
inductive Rewritten : Json → Json → Prop
  | refl (value : Json) : Rewritten value value
  | text {first second : String} (same : Text.Same first second) :
      Rewritten (.string first) (.string second)
  | decimal (number zeros : Nat) :
      Rewritten (.number (Digits.decimalText number))
        (.string (String.ofList (List.replicate zeros '0' ++ Digits.decimal number)))
  | hex (number zeros : Nat) :
      Rewritten (.number (Digits.decimalText number))
        (.string (String.ofList ('0' :: 'x' :: (List.replicate zeros '0' ++ Digits.hex number))))
  | symm {first second : Json} (h : Rewritten first second) : Rewritten second first
  | trans {first second third : Json} (h : Rewritten first second) (next : Rewritten second third) :
      Rewritten first third

/-- A quantity that is written in another way is the same number. -/
theorem Rewritten.spelled_iff {first second : Json} (h : Rewritten first second) {number : Nat} :
    Spelled first number ↔ Spelled second number := by
  induction h with
  | refl => exact Iff.rfl
  | @text first second same =>
    constructor
    · rintro ⟨⟩
      next h => exact .string (h.of_same same)
    · rintro ⟨⟩
      next h => exact .string (h.of_same same.symm)
  | decimal number zeros => exact (same_digits number zeros).1.spelled_iff
  | hex number zeros => exact (same_digits number zeros).2.spelled_iff
  | symm _ ih => exact ih.symm
  | trans _ _ ihfirst ihnext => exact ihfirst.trans ihnext

/-- Optional quantities that are written in another way are the same numbers, if the first are judged
to be numbers. -/
theorem rel_same_of_rewritten {α : Type} {judged : Json → α → Prop} {toNat : α → Nat}
    {first second : Option Json} {contents : Option α}
    (h : Option.Rel Rewritten first second) (hjudged : Option.Rel judged first contents)
    (hspelled : ∀ {value content}, judged value content → Spelled value (toNat content)) :
    Option.Rel Same first second := by
  cases h with
  | none => exact .none
  | some h =>
    cases hjudged with
    | some hcontent =>
      have hvalue := hspelled hcontent
      exact .some ⟨_, hvalue, h.spelled_iff.mp hvalue⟩

/-- A value that may be a quantity: a literal or a string. -/
def IsScalar (value : Json) : Prop :=
  (∃ literal, value = .number literal) ∨ ∃ text, value = .string text

/-- Only literals and strings can be written in other ways. -/
theorem Rewritten.eq_or_isScalar {first second : Json} (h : Rewritten first second) :
    first = second ∨ IsScalar first ∧ IsScalar second := by
  induction h with
  | refl => exact Or.inl rfl
  | text => exact Or.inr ⟨Or.inr ⟨_, rfl⟩, Or.inr ⟨_, rfl⟩⟩
  | decimal | hex => exact Or.inr ⟨Or.inl ⟨_, rfl⟩, Or.inr ⟨_, rfl⟩⟩
  | symm _ ih => exact ih.imp Eq.symm And.symm
  | trans _ _ ihfirst ihnext =>
    rcases ihfirst with rfl | ⟨hfirst, hsecond⟩
    · exact ihnext
    · rcases ihnext with rfl | ⟨-, hthird⟩
      · exact Or.inr ⟨hfirst, hsecond⟩
      · exact Or.inr ⟨hfirst, hthird⟩

end Quantity

/-! ## Gas prices -/

namespace GasPrice

variable {members others : List (String × Json)} {fee : Option Fee}

/-- A literal or a string asks for the price that it spells. -/
theorem asks_iff_of_isScalar {value : Json} (h : Quantity.IsScalar value) :
    Asks (some value) fee ↔
      ∃ price : Quantity, Quantity.Spelled value price.toNat ∧ some (.legacy price) = fee := by
  constructor
  · intro hasks
    cases hasks with
    | flat hprice => exact ⟨_, hprice, rfl⟩
    | null | nested | market | marketWithoutPart => rcases h with ⟨_, ⟨⟩⟩ | ⟨_, ⟨⟩⟩
  · rintro ⟨price, hprice, rfl⟩
    exact .flat hprice

/-- Two objects in which the same members are set, and spell the same quantities. -/
structure SetAlike (members others : List (String × Json)) : Prop where
  unset_iff : ∀ name, Unset members name ↔ Unset others name
  quotes_iff : ∀ name quantity, Quotes members name quantity ↔ Quotes others name quantity

/-- The order of two objects does not count. -/
theorem SetAlike.symm (h : SetAlike members others) : SetAlike others members where
  unset_iff name := (h.unset_iff name).symm
  quotes_iff name quantity := (h.quotes_iff name quantity).symm

/-- What an object asks for, objects that are set alike ask for as well. -/
theorem SetAlike.asks (h : SetAlike members others) (hasks : Asks (some (.object members)) fee) :
    Asks (some (.object others)) fee := by
  cases hasks with
  | flat hprice => cases hprice
  | nested most hprice => exact .nested ((h.unset_iff _).mp most) ((h.quotes_iff _ _).mp hprice)
  | market hmost hpart => exact .market ((h.quotes_iff _ _).mp hmost) ((h.quotes_iff _ _).mp hpart)
  | marketWithoutPart hmost part =>
    exact .marketWithoutPart ((h.quotes_iff _ _).mp hmost) ((h.unset_iff _).mp part)

/-- Objects that are set alike ask for the same fee. -/
theorem SetAlike.asks_iff (h : SetAlike members others) :
    Asks (some (.object members)) fee ↔ Asks (some (.object others)) fee :=
  ⟨h.asks, h.symm.asks⟩

/-- A price inside an object asks for the same as alone. -/
theorem asks_nested_iff {price : Json} (h : Quantity.IsScalar price) :
    Asks (some (.object [(priceName, price)])) fee ↔ Asks (some price) fee := by
  have hmost : ∀ value, find? maxFeeName [(priceName, price)] ≠ some value := by
    intro value hvalue
    cases hvalue
  rw [asks_iff_of_isScalar h]
  constructor
  · intro hasks
    cases hasks with
    | flat h => cases h
    | nested _ h =>
      obtain ⟨value, hfound, hvalue⟩ := h
      cases hfound
      exact ⟨_, hvalue, rfl⟩
    | market h | marketWithoutPart h =>
      obtain ⟨value, hfound, -⟩ := h
      exact absurd hfound (hmost value)
  · rintro ⟨quantity, hquantity, rfl⟩
    exact .nested (fun value hvalue => absurd hvalue (hmost value)) ⟨price, rfl, hquantity⟩

/-- The ways to write a gas price: `null` for none, a price alone or inside an object, a quantity in
another way wherever it stands, `null` for a member that is not set, and beside a most a producer's
part of zero for one that is not set. -/
inductive Rewritten : Option Json → Option Json → Prop
  | null : Rewritten none (some .null)
  | flat {value other : Json} (h : Quantity.Rewritten value other) :
      Rewritten (some value) (some other)
  | nested {price : Json} (h : Quantity.IsScalar price) :
      Rewritten (some price) (some (.object [(priceName, price)]))
  | member {members : List (String × Json)} {name : String} {value other : Json}
      (found : find? name members = some value) (h : Quantity.Rewritten value other) :
      Rewritten (some (.object members)) (some (.object (insert name other members)))
  | unset {members : List (String × Json)} {name : String} (unset : Unset members name) :
      Rewritten (some (.object members)) (some (.object (insert name .null members)))
  | zero {members : List (String × Json)} {part : Json} (most : ¬ Unset members maxFeeName)
      (unset : Unset members priorityFeeName)
      (zero : Quantity.Spelled part Quantity.zero.toNat) :
      Rewritten (some (.object members)) (some (.object (insert priorityFeeName part members)))
  | symm {first second : Option Json} (h : Rewritten first second) : Rewritten second first
  | trans {first second third : Option Json} (h : Rewritten first second)
      (next : Rewritten second third) : Rewritten first third

section

variable {name key : String} {value : Json} {quantity : Quantity}

/-- A member that is put into an object is set unless it is `null`. -/
theorem unset_insert_self : Unset (insert name value members) name ↔ value = .null := by
  simp only [Unset, find?_insert_self, Option.some.injEq, forall_eq']

/-- It spells what its value spells. -/
theorem quotes_insert_self :
    Quotes (insert name value members) name quantity ↔
      Quantity.Spelled value quantity.toNat := by
  simp only [Quotes, find?_insert_self, Option.some.injEq, exists_eq_left']

/-- Other members are set as before, -/
theorem unset_insert_of_ne (h : name ≠ key) :
    Unset (insert name value members) key ↔ Unset members key := by
  rw [Unset, Unset, find?_insert_of_ne h]

/-- and spell what they spelled. -/
theorem quotes_insert_of_ne (h : name ≠ key) :
    Quotes (insert name value members) key quantity ↔ Quotes members key quantity := by
  rw [Quotes, Quotes, find?_insert_of_ne h]

/-- What is not set spells no quantity. -/
theorem Unset.not_quotes (h : Unset members name) : ¬ Quotes members name quantity := by
  rintro ⟨value, hfound, hvalue⟩
  rw [h value hfound] at hvalue
  cases hvalue

/-- Objects that differ in one member are set alike if they are so in this member. -/
theorem setAlike_insert (hunset : Unset members name ↔ value = .null)
    (hquotes : ∀ quantity, Quotes members name quantity ↔
      Quantity.Spelled value quantity.toNat) :
    SetAlike members (insert name value members) := by
  constructor
  · intro key
    by_cases hkey : name = key
    · subst hkey
      rw [unset_insert_self, hunset]
    · rw [unset_insert_of_ne hkey]
  · intro key quantity
    by_cases hkey : name = key
    · subst hkey
      rw [quotes_insert_self, hquotes]
    · rw [quotes_insert_of_ne hkey]

/-- A member whose value is written in another way is set alike. -/
theorem setAlike_insert_of_rewritten {other : Json} (found : find? name members = some value)
    (h : Quantity.Rewritten value other) : SetAlike members (insert name other members) := by
  -- Only literals and strings are written in other ways, so `null` stays `null`.
  have hnull : value = .null ↔ other = .null := by
    rcases h.eq_or_isScalar with rfl | ⟨hvalue, hother⟩
    · exact Iff.rfl
    · rcases hvalue with ⟨_, rfl⟩ | ⟨_, rfl⟩ <;> rcases hother with ⟨_, rfl⟩ | ⟨_, rfl⟩ <;> simp
  refine setAlike_insert ?_ ?_
  · simp only [Unset, found, Option.some.injEq, forall_eq', hnull]
  · intro quantity
    simp only [Quotes, found, Option.some.injEq, exists_eq_left', h.spelled_iff]

/-- A member that is not set is set alike by `null`. -/
theorem setAlike_insert_null (unset : Unset members name) :
    SetAlike members (insert name .null members) := by
  refine setAlike_insert (iff_of_true unset rfl) ?_
  intro quantity
  refine iff_of_false unset.not_quotes ?_
  intro hnull
  cases hnull

end

/-- Beside a most, a producer's part of zero asks for the same as one that is not set. -/
theorem asks_insert_zero_iff {part : Json} (most : ¬ Unset members maxFeeName)
    (unset : Unset members priorityFeeName) (zero : Quantity.Spelled part Quantity.zero.toNat) :
    Asks (some (.object members)) fee ↔
      Asks (some (.object (insert priorityFeeName part members))) fee := by
  have hne : priorityFeeName ≠ maxFeeName := by decide
  constructor
  · intro h
    cases h with
    | flat hprice => cases hprice
    | nested unsetMost => exact absurd unsetMost most
    | market _ hpart => exact absurd hpart unset.not_quotes
    | marketWithoutPart h =>
      exact .market ((quotes_insert_of_ne hne).mpr h) (quotes_insert_self.mpr zero)
  · intro h
    cases h with
    | flat hprice => cases hprice
    | nested unsetMost => exact absurd ((unset_insert_of_ne hne).mp unsetMost) most
    | marketWithoutPart _ hpart =>
      rw [unset_insert_self.mp hpart] at zero
      cases zero
    | @market _ _ priorityFee h hpart =>
      -- The part is the zero that was put in, and zero is what a missing part counts as.
      have hzero := (quotes_insert_self.mp hpart).unique zero
      obtain rfl : priorityFee = .zero := Quantity.ext hzero
      exact .marketWithoutPart ((quotes_insert_of_ne hne).mp h) unset

/-- **Gas prices.** A gas price that is written in another way asks for the same fee. -/
theorem Rewritten.asks_iff {first second : Option Json} (h : Rewritten first second) :
    Asks first fee ↔ Asks second fee := by
  induction h with
  | null =>
    constructor
    · rintro ⟨⟩
      exact .null
    · intro h
      cases h with
      | null => exact .absent
      | flat h => cases h
  | flat h =>
    rcases h.eq_or_isScalar with rfl | ⟨hvalue, hother⟩
    · exact Iff.rfl
    · simp only [asks_iff_of_isScalar hvalue, asks_iff_of_isScalar hother, h.spelled_iff]
  | nested h => exact (asks_nested_iff h).symm
  | member found h => exact (setAlike_insert_of_rewritten found h).asks_iff
  | unset unset => exact (setAlike_insert_null unset).asks_iff
  | zero most unset zero => exact asks_insert_zero_iff most unset zero
  | symm _ ih => exact ih.symm
  | trans _ _ ihfirst ihnext => exact ihfirst.trans ihnext

end GasPrice

end TxGateway
