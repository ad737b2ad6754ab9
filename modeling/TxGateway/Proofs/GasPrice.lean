import TxGateway.GasPrice
import TxGateway.Proofs.Fallible
import TxGateway.Proofs.QuantityText
/-!
# Which offer a gas price makes

`GasPrice.Offers` says, without running anything, which offer an optional value makes: none, a price
as such, a price inside an object, or the two prices of a fee market. `GasPrice.resolve` finds
exactly this offer (`resolve_eq_ok_iff`), and none only where there is no value or `null`
(`Offers.eq_none_iff`).

`GasPrice.Asks` says which fee a value asks for, by the numbers that it spells: no fee, a price
wherever it stands, or both prices of a market. It is the fee of the offer that the value makes
(`asks_iff`).
-/

namespace TxGateway

namespace GasPrice

open Fallible

variable {members : List (String × Json)} {name : String}

/-! ## Members that are present -/

/-- A member that is not set: not there, or `null`. -/
def Unset (members : List (String × Json)) (name : String) : Prop :=
  ∀ value, Json.find? name members = some value → value = .null

/-- The test for `null` is right. -/
theorem isNull_eq_true_iff {value : Json} : value.isNull = true ↔ value = .null := by
  cases value <;> simp [Json.isNull]

/-- A present member is one that is there and not `null`. -/
theorem present?_eq_some_iff {value : Json} :
    present? members name = some value ↔ Json.find? name members = some value ∧ value ≠ .null := by
  rw [present?, Option.filter_eq_some_iff, Bool.not_eq_true', ← Bool.not_eq_true,
    isNull_eq_true_iff]

/-- No member is present where none is set. -/
theorem present?_eq_none_iff : present? members name = none ↔ Unset members name := by
  rw [present?, Option.filter_eq_none_iff]
  constructor
  · intro h value hvalue
    have hnull := h value hvalue
    rwa [Bool.not_eq_true', Bool.not_eq_false, isNull_eq_true_iff] at hnull
  · intro h value hvalue
    rw [Bool.not_eq_true', Bool.not_eq_false, isNull_eq_true_iff]
    exact h value hvalue

/-- A quantity is not `null`. -/
theorem ne_null_of_ofJson {value : Json} {quantity : Quantity}
    (h : Quantity.ofJson value = .ok quantity) : value ≠ .null := by
  rintro rfl
  cases h

/-! ## Offers -/

/-- A member holds a quantity. -/
def Holds (members : List (String × Json)) (name : String) (quantity : Quantity) : Prop :=
  ∃ value, Json.find? name members = some value ∧ Quantity.ofJson value = .ok quantity

/-- The offer that an optional value makes. -/
inductive Offers : Option Json → Option GasPrice → Prop
  | absent : Offers none none
  | null : Offers (some .null) none
  | flat {value : Json} {price : Quantity} (h : Quantity.ofJson value = .ok price) :
      Offers (some value) (some (.flat price))
  | nested {members : List (String × Json)} {price : Quantity} (most : Unset members maxFeeName)
      (h : Holds members priceName price) :
      Offers (some (.object members)) (some (.nested price))
  | market {members : List (String × Json)} {maxFee priorityFee : Quantity}
      (h : Holds members maxFeeName maxFee) (part : Holds members priorityFeeName priorityFee) :
      Offers (some (.object members)) (some (.market maxFee priorityFee))
  | marketWithoutPart {members : List (String × Json)} {maxFee : Quantity}
      (h : Holds members maxFeeName maxFee) (part : Unset members priorityFeeName) :
      Offers (some (.object members)) (some (.market maxFee .zero))

/-- Only where there is no value or `null`, there is no offer. -/
theorem Offers.eq_none_iff {value : Option Json} {offer : Option GasPrice}
    (h : Offers value offer) :
    offer = none ↔ value = none ∨ value = some .null := by
  cases h with
  | absent => exact ⟨fun _ => Or.inl rfl, fun _ => rfl⟩
  | null => exact ⟨fun _ => Or.inr rfl, fun _ => rfl⟩
  | flat h =>
    have hvalue := ne_null_of_ofJson h
    simp [hvalue]
  | nested | market | marketWithoutPart => simp

/-- The quantity of a present member is the quantity that the member holds. -/
theorem holds_iff {quantity : Quantity} :
    Holds members name quantity ↔
      ∃ value, present? members name = some value ∧ memberQuantity name value = .ok quantity := by
  constructor
  · rintro ⟨value, hfound, hvalue⟩
    exact ⟨value, present?_eq_some_iff.mpr ⟨hfound, ne_null_of_ofJson hvalue⟩,
      mapError_eq_ok_iff.mpr hvalue⟩
  · rintro ⟨value, hpresent, hvalue⟩
    exact ⟨value, (present?_eq_some_iff.mp hpresent).1, mapError_eq_ok_iff.mp hvalue⟩

/-- The offer of an object is the one that its members make. -/
theorem ofMembers_eq_ok_iff {offer : GasPrice} :
    ofMembers members = .ok offer ↔ Offers (some (.object members)) (some offer) := by
  constructor
  · intro h
    unfold ofMembers at h
    cases hmost : present? members maxFeeName with
    | none =>
      rw [hmost] at h
      cases hprice : present? members priceName with
      | none =>
        rw [hprice] at h
        cases h
      | some value =>
        rw [hprice] at h
        obtain ⟨price, hvalue, hoffer⟩ := bind_eq_ok_iff.mp h
        cases hoffer
        exact .nested (present?_eq_none_iff.mp hmost) (holds_iff.mpr ⟨value, hprice, hvalue⟩)
    | some most =>
      -- The producer's part is read first, and is zero where it is not set.
      cases hpresent : present? members priorityFeeName with
      | none =>
        rw [hmost, hpresent] at h
        obtain ⟨priorityFee, hzero, h⟩ := bind_eq_ok_iff.mp h
        obtain ⟨maxFee, hmaxFee, hoffer⟩ := bind_eq_ok_iff.mp h
        cases hzero
        cases hoffer
        exact .marketWithoutPart (holds_iff.mpr ⟨most, hmost, hmaxFee⟩)
          (present?_eq_none_iff.mp hpresent)
      | some part =>
        rw [hmost, hpresent] at h
        obtain ⟨priorityFee, hpart, h⟩ := bind_eq_ok_iff.mp h
        obtain ⟨maxFee, hmaxFee, hoffer⟩ := bind_eq_ok_iff.mp h
        cases hoffer
        exact .market (holds_iff.mpr ⟨most, hmost, hmaxFee⟩)
          (holds_iff.mpr ⟨part, hpresent, hpart⟩)
  · intro h
    unfold ofMembers
    cases h with
    | flat h => cases h
    | nested most h =>
      obtain ⟨value, hprice, hvalue⟩ := holds_iff.mp h
      rw [present?_eq_none_iff.mpr most, hprice]
      exact bind_eq_ok_iff.mpr ⟨_, hvalue, rfl⟩
    | market h part =>
      obtain ⟨most, hmost, hmaxFee⟩ := holds_iff.mp h
      obtain ⟨value, hpresent, hpart⟩ := holds_iff.mp part
      rw [hmost, hpresent]
      exact bind_eq_ok_iff.mpr ⟨_, hpart, bind_eq_ok_iff.mpr ⟨_, hmaxFee, rfl⟩⟩
    | marketWithoutPart h part =>
      obtain ⟨most, hmost, hmaxFee⟩ := holds_iff.mp h
      rw [hmost, present?_eq_none_iff.mpr part]
      exact bind_eq_ok_iff.mpr ⟨_, rfl, bind_eq_ok_iff.mpr ⟨_, hmaxFee, rfl⟩⟩

/-- The offer of a price as such is the quantity of the value. -/
theorem resolve_of_not_object {value : Json} (hnull : value ≠ .null)
    (hobject : ∀ members, value ≠ .object members) :
    resolve (some value) =
      ((Quantity.ofJson value).mapError .quantity).map fun price => some (.flat price) := by
  cases value with
  | null => exact absurd rfl hnull
  | object members => exact absurd rfl (hobject members)
  | bool | number | string | array => rfl

/-- **Resolving a gas price.** The offer that is found is the one that the value makes. -/
theorem resolve_eq_ok_iff {value : Option Json} {offer : Option GasPrice} :
    resolve value = .ok offer ↔ Offers value offer := by
  constructor
  · intro h
    rcases value with _ | value
    · cases h
      exact .absent
    by_cases hnull : value = .null
    · subst hnull
      cases h
      exact .null
    -- Only an object is looked into; anything else must be a price as such.
    by_cases hobject : ∃ members, value = .object members
    · obtain ⟨members, rfl⟩ := hobject
      obtain ⟨made, hmade, rfl⟩ := map_eq_ok_iff.mp h
      exact ofMembers_eq_ok_iff.mp hmade
    · rw [resolve_of_not_object hnull fun members hvalue => hobject ⟨members, hvalue⟩] at h
      obtain ⟨price, hprice, rfl⟩ := map_eq_ok_iff.mp h
      exact .flat (mapError_eq_ok_iff.mp hprice)
  · intro h
    have hmembers : ∀ members made, Offers (some (.object members)) (some made) →
        resolve (some (.object members)) = .ok (some made) := fun members made hoffers =>
      map_eq_ok_iff.mpr ⟨made, ofMembers_eq_ok_iff.mpr hoffers, rfl⟩
    cases h with
    | absent => rfl
    | null => rfl
    | flat h =>
      rw [resolve_of_not_object (ne_null_of_ofJson h) (by rintro members rfl; cases h)]
      exact map_eq_ok_iff.mpr ⟨_, mapError_eq_ok_iff.mpr h, rfl⟩
    | nested most h => exact hmembers _ _ (.nested most h)
    | market h part => exact hmembers _ _ (.market h part)
    | marketWithoutPart h part => exact hmembers _ _ (.marketWithoutPart h part)

/-! ## Fees -/

/-- A member spells a quantity. -/
def Quotes (members : List (String × Json)) (name : String) (quantity : Quantity) : Prop :=
  ∃ value, Json.find? name members = some value ∧ Quantity.Spelled value quantity.toNat

/-- The fee that an optional value asks for: none where it is missing or `null`, the price that it
spells as such or inside an object without a most, and both prices of an object with a most. A
producer's part that is not set is zero. -/
inductive Asks : Option Json → Option Fee → Prop
  | absent : Asks none none
  | null : Asks (some .null) none
  | flat {value : Json} {price : Quantity} (h : Quantity.Spelled value price.toNat) :
      Asks (some value) (some (.legacy price))
  | nested {members : List (String × Json)} {price : Quantity} (most : Unset members maxFeeName)
      (h : Quotes members priceName price) :
      Asks (some (.object members)) (some (.legacy price))
  | market {members : List (String × Json)} {maxFee priorityFee : Quantity}
      (h : Quotes members maxFeeName maxFee) (part : Quotes members priorityFeeName priorityFee) :
      Asks (some (.object members)) (some (.market maxFee priorityFee))
  | marketWithoutPart {members : List (String × Json)} {maxFee : Quantity}
      (h : Quotes members maxFeeName maxFee) (part : Unset members priorityFeeName) :
      Asks (some (.object members)) (some (.market maxFee .zero))

/-- A member spells the quantity that it holds. -/
theorem quotes_iff {quantity : Quantity} :
    Quotes members name quantity ↔ Holds members name quantity := by
  simp only [Quotes, Holds, Quantity.ofJson_eq_ok_iff]

/-- **Fees.** The fee that a value asks for is the fee of the offer that it makes. -/
theorem asks_iff {value : Option Json} {fee : Option Fee} :
    Asks value fee ↔ ∃ offer, Offers value offer ∧ offer.map GasPrice.fee = fee := by
  constructor
  · intro h
    cases h with
    | absent => exact ⟨none, .absent, rfl⟩
    | null => exact ⟨none, .null, rfl⟩
    | @flat _ price h => exact ⟨some (.flat price), .flat (Quantity.ofJson_eq_ok_iff.mpr h), rfl⟩
    | @nested _ price most h =>
      exact ⟨some (.nested price), .nested most (quotes_iff.mp h), rfl⟩
    | @market _ maxFee priorityFee h part =>
      exact ⟨some (.market maxFee priorityFee), .market (quotes_iff.mp h) (quotes_iff.mp part), rfl⟩
    | @marketWithoutPart _ maxFee h part =>
      exact ⟨some (.market maxFee .zero), .marketWithoutPart (quotes_iff.mp h) part, rfl⟩
  · rintro ⟨offer, h, rfl⟩
    cases h with
    | absent => exact .absent
    | null => exact .null
    | flat h => exact .flat (Quantity.ofJson_eq_ok_iff.mp h)
    | nested most h => exact .nested most (quotes_iff.mpr h)
    | market h part => exact .market (quotes_iff.mpr h) (quotes_iff.mpr part)
    | marketWithoutPart h part => exact .marketWithoutPart (quotes_iff.mpr h) part

/-- No fee is asked for exactly where there is no value or `null`. -/
theorem Asks.eq_none_iff {value : Option Json} {fee : Option Fee} (h : Asks value fee) :
    fee = none ↔ value = none ∨ value = some .null := by
  obtain ⟨offer, hoffers, rfl⟩ := asks_iff.mp h
  rw [Option.map_eq_none_iff, hoffers.eq_none_iff]

end GasPrice

end TxGateway
