import TxGateway.Proofs.GasPrice
import TxGateway.Proofs.Json.NameOrder
/-!
# What becomes of a gas price

Every optional value makes an offer or is refused. `GasPrice.Offers` says which offer is made, and
`GasPrice.Refuses` for what cause a value makes none.

* `GasPrice.resolve_eq_error_iff` : a value is refused for the cause that it gives;
* `GasPrice.resolve_congr` : two objects make the same offer when they agree on the prices that count;
* `GasPrice.resolve_outcomes` : all outcomes of a gas price.
-/

namespace TxGateway

namespace GasPrice

open Fallible

variable {members others : List (String × Json)} {name : String} {value : Option Json}

/-! ## Refusals -/

/-- A member spoils an offer: it is set, but to no quantity. -/
def Spoils (members : List (String × Json)) (name : String) (cause : QuantityError) : Prop :=
  ∃ value, Json.find? name members = some value ∧ value ≠ .null ∧
    Quantity.ofJson value = .error cause

/-- Why a value makes no offer. The producer's part counts only beside a most, and before it. -/
inductive Refuses : Json → GasPriceError → Prop
  | quantity {value : Json} {cause : QuantityError} (null : value ≠ .null)
      (object : ∀ members, value ≠ .object members) (h : Quantity.ofJson value = .error cause) :
      Refuses value (.quantity cause)
  | shape {members : List (String × Json)} (most : Unset members maxFeeName)
      (price : Unset members priceName) :
      Refuses (.object members) (.unknownShape (members.map Prod.fst))
  | priorityFee {members : List (String × Json)} {cause : QuantityError}
      (most : ¬ Unset members maxFeeName) (h : Spoils members priorityFeeName cause) :
      Refuses (.object members) (.member priorityFeeName cause)
  | maxFee {members : List (String × Json)} {cause : QuantityError}
      (part : Unset members priorityFeeName ∨
        ∃ priorityFee, Holds members priorityFeeName priorityFee)
      (h : Spoils members maxFeeName cause) :
      Refuses (.object members) (.member maxFeeName cause)
  | price {members : List (String × Json)} {cause : QuantityError}
      (most : Unset members maxFeeName) (h : Spoils members priceName cause) :
      Refuses (.object members) (.member priceName cause)

/-- The refusal of a present member is the refusal that it causes. -/
theorem spoils_iff {cause : QuantityError} :
    Spoils members name cause ↔ ∃ value, present? members name = some value ∧
      memberQuantity name value = .error (.member name cause) := by
  constructor
  · rintro ⟨value, hfound, hnull, hvalue⟩
    exact ⟨value, present?_eq_some_iff.mpr ⟨hfound, hnull⟩,
      mapError_eq_error_iff.mpr ⟨cause, hvalue, rfl⟩⟩
  · rintro ⟨value, hpresent, hvalue⟩
    obtain ⟨hfound, hnull⟩ := present?_eq_some_iff.mp hpresent
    obtain ⟨inner, hinner, hcause⟩ := mapError_eq_error_iff.mp hvalue
    cases hcause
    exact ⟨value, hfound, hnull, hinner⟩

/-- A present member is refused under its name, for what is wrong with it. -/
theorem memberQuantity_eq_error_iff {given : Json} {cause : GasPriceError}
    (hpresent : present? members name = some given) :
    memberQuantity name given = .error cause ↔
      ∃ inner, cause = .member name inner ∧ Spoils members name inner := by
  constructor
  · intro h
    obtain ⟨inner, -, rfl⟩ := mapError_eq_error_iff.mp h
    exact ⟨inner, rfl, spoils_iff.mpr ⟨given, hpresent, h⟩⟩
  · rintro ⟨inner, rfl, h⟩
    obtain ⟨other, hother, hvalue⟩ := spoils_iff.mp h
    rw [hpresent] at hother
    cases hother
    exact hvalue

/-- A member is set exactly when it is present. -/
theorem not_unset_iff : ¬ Unset members name ↔ ∃ given, present? members name = some given := by
  rw [← present?_eq_none_iff]
  exact Option.ne_none_iff_exists'

/-- A member that spoils an offer is set. -/
theorem Spoils.not_unset {cause : QuantityError} (h : Spoils members name cause) :
    ¬ Unset members name := by
  obtain ⟨given, hpresent, -⟩ := spoils_iff.mp h
  exact not_unset_iff.mpr ⟨given, hpresent⟩

/-! ### Objects with a most -/

/-- The producer's part that an object offers: zero where it is not set. -/
def offeredPart (members : List (String × Json)) : Except GasPriceError Quantity :=
  match present? members priorityFeeName with
  | some part => memberQuantity priorityFeeName part
  | none => .ok .zero

/-- An object offers a part when it is not set, or holds a quantity. -/
theorem exists_offeredPart_eq_ok_iff :
    (∃ priorityFee, offeredPart members = .ok priorityFee) ↔
      Unset members priorityFeeName ∨
        ∃ priorityFee, Holds members priorityFeeName priorityFee := by
  unfold offeredPart
  cases hpresent : present? members priorityFeeName with
  | none => simp [present?_eq_none_iff.mp hpresent]
  | some part =>
    have hset : ¬ Unset members priorityFeeName := not_unset_iff.mpr ⟨part, hpresent⟩
    rw [or_iff_right hset]
    refine exists_congr fun priorityFee => ?_
    rw [holds_iff, hpresent]
    simp

/-- An object fails to offer a part when its member is set to no quantity. -/
theorem offeredPart_eq_error_iff {cause : GasPriceError} :
    offeredPart members = .error cause ↔
      ∃ inner, cause = .member priorityFeeName inner ∧ Spoils members priorityFeeName inner := by
  unfold offeredPart
  cases hpresent : present? members priorityFeeName with
  | none =>
    constructor
    · intro h
      cases h
    · rintro ⟨inner, -, hspoils⟩
      exact absurd (present?_eq_none_iff.mp hpresent) hspoils.not_unset
  | some part => exact memberQuantity_eq_error_iff hpresent

/-- An object with a most offers the part first, and then the most. -/
theorem ofMembers_of_present {most : Json} (h : present? members maxFeeName = some most) :
    ofMembers members = offeredPart members >>= fun priorityFee =>
      memberQuantity maxFeeName most >>= fun maxFee => .ok (.market maxFee priorityFee) := by
  rw [ofMembers, h, offeredPart]
  cases present? members priorityFeeName <;> rfl

/-- An object with a most is refused for the producer's part, or else for the most. -/
theorem ofMembers_eq_error_iff_of_present {most : Json} {cause : GasPriceError}
    (h : present? members maxFeeName = some most) :
    ofMembers members = .error cause ↔ Refuses (.object members) cause := by
  have hset : ¬ Unset members maxFeeName := not_unset_iff.mpr ⟨most, h⟩
  rw [ofMembers_of_present h, bind_eq_error_iff]
  constructor
  · rintro (hpart | ⟨priorityFee, hpart, hrest⟩)
    · obtain ⟨inner, rfl, hspoils⟩ := offeredPart_eq_error_iff.mp hpart
      exact .priorityFee hset hspoils
    · rcases bind_eq_error_iff.mp hrest with hmost | ⟨maxFee, -, hoffer⟩
      · obtain ⟨inner, rfl, hspoils⟩ := (memberQuantity_eq_error_iff h).mp hmost
        exact .maxFee (exists_offeredPart_eq_ok_iff.mp ⟨priorityFee, hpart⟩) hspoils
      · cases hoffer
  · intro hrefuses
    cases hrefuses with
    | quantity _ object _ => exact absurd rfl (object members)
    | shape hunset | price hunset => exact absurd hunset hset
    | priorityFee _ hspoils => exact Or.inl (offeredPart_eq_error_iff.mpr ⟨_, rfl, hspoils⟩)
    | maxFee hoffered hspoils =>
      obtain ⟨priorityFee, hpart⟩ := exists_offeredPart_eq_ok_iff.mpr hoffered
      have hmost := (memberQuantity_eq_error_iff h).mpr ⟨_, rfl, hspoils⟩
      exact Or.inr ⟨priorityFee, hpart, bind_eq_error_iff.mpr (Or.inl hmost)⟩

/-! ### Objects without a most -/

/-- An object without a most is refused for its shape, or for its price. -/
theorem ofMembers_eq_error_iff_of_unset {cause : GasPriceError} (h : Unset members maxFeeName) :
    ofMembers members = .error cause ↔ Refuses (.object members) cause := by
  rw [ofMembers, present?_eq_none_iff.mpr h]
  cases hprice : present? members priceName with
  | none =>
    have hnone : Unset members priceName := present?_eq_none_iff.mp hprice
    constructor
    · intro hshape
      cases hshape
      exact .shape h hnone
    · intro hrefuses
      cases hrefuses with
      | quantity _ object _ => exact absurd rfl (object members)
      | shape => rfl
      | priorityFee hset => exact absurd h hset
      | maxFee _ hspoils => exact absurd h hspoils.not_unset
      | price _ hspoils => exact absurd hnone hspoils.not_unset
  | some given =>
    have hset : ¬ Unset members priceName := not_unset_iff.mpr ⟨given, hprice⟩
    refine bind_eq_error_iff.trans ?_
    constructor
    · rintro (hgiven | ⟨price, -, hoffer⟩)
      · obtain ⟨inner, rfl, hspoils⟩ := (memberQuantity_eq_error_iff hprice).mp hgiven
        exact .price h hspoils
      · cases hoffer
    · intro hrefuses
      cases hrefuses with
      | quantity _ object _ => exact absurd rfl (object members)
      | shape _ hnone => exact absurd hnone hset
      | priorityFee hmost => exact absurd h hmost
      | maxFee _ hspoils => exact absurd h hspoils.not_unset
      | price _ hspoils =>
        exact Or.inl ((memberQuantity_eq_error_iff hprice).mpr ⟨_, rfl, hspoils⟩)

/-- An object is refused for the cause that its members give. -/
theorem ofMembers_eq_error_iff {cause : GasPriceError} :
    ofMembers members = .error cause ↔ Refuses (.object members) cause := by
  by_cases hunset : Unset members maxFeeName
  · exact ofMembers_eq_error_iff_of_unset hunset
  · obtain ⟨most, hmost⟩ := not_unset_iff.mp hunset
    exact ofMembers_eq_error_iff_of_present hmost

/-- A price as such is refused for what is wrong with it. -/
theorem resolve_of_not_object_eq_error_iff {given : Json} {cause : GasPriceError}
    (hnull : given ≠ .null) (hobject : ∀ members, given ≠ .object members) :
    resolve (some given) = .error cause ↔ Refuses given cause := by
  rw [resolve_of_not_object hnull hobject, map_eq_error_iff, mapError_eq_error_iff]
  constructor
  · rintro ⟨inner, hinner, rfl⟩
    exact .quantity hnull hobject hinner
  · intro h
    cases h with
    | quantity _ _ hinner => exact ⟨_, hinner, rfl⟩
    | shape | priorityFee | maxFee | price => exact absurd rfl (hobject _)

/-- **Refusing a gas price.** A gas price is refused for the cause that its value gives. -/
theorem resolve_eq_error_iff {cause : GasPriceError} :
    resolve value = .error cause ↔ ∃ given, value = some given ∧ Refuses given cause := by
  rcases value with _ | given
  · constructor
    · intro h
      cases h
    · rintro ⟨given, h, -⟩
      cases h
  have hgiven : resolve (some given) = .error cause ↔ Refuses given cause := by
    cases given with
    | null =>
      constructor
      · intro h
        cases h
      · intro h
        cases h with
        | quantity null _ _ => exact absurd rfl null
    | object members => exact map_eq_error_iff.trans ofMembers_eq_error_iff
    | bool | number | string | array =>
      exact resolve_of_not_object_eq_error_iff (by simp) (by simp)
  rw [hgiven]
  constructor
  · intro h
    exact ⟨given, rfl, h⟩
  · rintro ⟨other, h, hother⟩
    cases h
    exact hother

/-! ## The outcomes one by one -/

/-- There is no offer exactly where there is no value or `null`. -/
theorem resolve_eq_none_iff : resolve value = .ok none ↔ value = none ∨ value = some .null := by
  constructor
  · intro h
    exact (resolve_eq_ok_iff.mp h).eq_none_iff.mp rfl
  · rintro (rfl | rfl) <;> rfl

/-- A value is a price as such exactly when it is a number or a string that is a quantity. -/
theorem resolve_eq_flat_iff {price : Quantity} :
    resolve value = .ok (some (.flat price)) ↔ ∃ given, value = some given ∧
      ((∃ literal, given = .number literal) ∨ ∃ text, given = .string text) ∧
      Quantity.ofJson given = .ok price := by
  rw [resolve_eq_ok_iff]
  constructor
  · intro h
    cases h with
    | @flat given _ h =>
      refine ⟨given, rfl, ?_, h⟩
      cases given with
      | number literal => exact Or.inl ⟨literal, rfl⟩
      | string text => exact Or.inr ⟨text, rfl⟩
      | null | bool | array | object => cases h
  · rintro ⟨given, rfl, -, h⟩
    exact .flat h

/-- A value offers the two prices of a fee market exactly when it is an object with a most, and with
the producer's part or none. -/
theorem resolve_eq_market_iff {maxFee priorityFee : Quantity} :
    resolve value = .ok (some (.market maxFee priorityFee)) ↔
      ∃ members, value = some (.object members) ∧ Holds members maxFeeName maxFee ∧
        (Unset members priorityFeeName ∧ priorityFee = .zero ∨
          Holds members priorityFeeName priorityFee) := by
  rw [resolve_eq_ok_iff]
  constructor
  · intro h
    cases h with
    | market h part => exact ⟨_, rfl, h, Or.inr part⟩
    | marketWithoutPart h part => exact ⟨_, rfl, h, Or.inl ⟨part, rfl⟩⟩
  · rintro ⟨members, rfl, h, ⟨part, rfl⟩ | part⟩
    · exact .marketWithoutPart h part
    · exact .market h part

/-- A value offers a price inside an object exactly when it is an object with a price and no most. -/
theorem resolve_eq_nested_iff {price : Quantity} :
    resolve value = .ok (some (.nested price)) ↔
      ∃ members, value = some (.object members) ∧ Unset members maxFeeName ∧
        Holds members priceName price := by
  rw [resolve_eq_ok_iff]
  constructor
  · intro h
    cases h with
    | nested most h => exact ⟨_, rfl, most, h⟩
  · rintro ⟨members, rfl, most, h⟩
    exact .nested most h

/-- A value is no quantity exactly when it is neither `null` nor an object and is read as none. -/
theorem resolve_eq_quantity_iff {cause : QuantityError} :
    resolve value = .error (.quantity cause) ↔ ∃ given, value = some given ∧ given ≠ .null ∧
      (∀ members, given ≠ .object members) ∧ Quantity.ofJson given = .error cause := by
  rw [resolve_eq_error_iff]
  refine exists_congr fun given => and_congr_right fun _ => ?_
  constructor
  · intro h
    cases h with
    | quantity null object h => exact ⟨null, object, h⟩
  · rintro ⟨null, object, h⟩
    exact .quantity null object h

/-- A value has no known shape exactly when it is an object with neither a most nor a price; the names
of its members are reported. -/
theorem resolve_eq_unknownShape_iff {names : List String} :
    resolve value = .error (.unknownShape names) ↔
      ∃ members, value = some (.object members) ∧ Unset members maxFeeName ∧
        Unset members priceName ∧ names = members.map Prod.fst := by
  rw [resolve_eq_error_iff]
  constructor
  · rintro ⟨given, rfl, h⟩
    cases h with
    | shape most price => exact ⟨_, rfl, most, price, rfl⟩
  · rintro ⟨members, rfl, most, price, rfl⟩
    exact ⟨_, rfl, .shape most price⟩

/-- A member of a value is at fault exactly when the value is an object in which this member counts
and is set to no quantity. -/
theorem resolve_eq_member_iff {cause : QuantityError} :
    resolve value = .error (.member name cause) ↔
      ∃ members, value = some (.object members) ∧ Spoils members name cause ∧
        (name = priorityFeeName ∧ ¬ Unset members maxFeeName ∨
          name = maxFeeName ∧ (Unset members priorityFeeName ∨
            ∃ priorityFee, Holds members priorityFeeName priorityFee) ∨
          name = priceName ∧ Unset members maxFeeName) := by
  rw [resolve_eq_error_iff]
  constructor
  · rintro ⟨given, rfl, h⟩
    cases h with
    | priorityFee most h => exact ⟨_, rfl, h, Or.inl ⟨rfl, most⟩⟩
    | maxFee part h => exact ⟨_, rfl, h, Or.inr (Or.inl ⟨rfl, part⟩)⟩
    | price most h => exact ⟨_, rfl, h, Or.inr (Or.inr ⟨rfl, most⟩)⟩
  · rintro ⟨members, rfl, h, ⟨rfl, most⟩ | ⟨rfl, part⟩ | ⟨rfl, most⟩⟩
    · exact ⟨_, rfl, .priorityFee most h⟩
    · exact ⟨_, rfl, .maxFee part h⟩
    · exact ⟨_, rfl, .price most h⟩

/-! ## Members that count -/

/-- Two objects agree on the prices that count: on the most; where there is one, on the producer's
part; where there is none, on the single price. -/
structure Agree (members others : List (String × Json)) : Prop where
  maxFee : Json.find? maxFeeName members = Json.find? maxFeeName others
  priorityFee : ¬ Unset members maxFeeName →
    Json.find? priorityFeeName members = Json.find? priorityFeeName others
  price : Unset members maxFeeName → Json.find? priceName members = Json.find? priceName others

/-- A member that is found alike is present alike. -/
theorem present?_congr (h : Json.find? name members = Json.find? name others) :
    present? members name = present? others name := by
  rw [present?, present?, h]

/-- Objects that agree on the prices that count make the same offer or are refused alike, but for
objects of no known shape. -/
theorem resolve_congr (h : Agree members others) :
    resolve (some (.object members)) = resolve (some (.object others)) ∨
      resolve (some (.object members)) = .error (.unknownShape (members.map Prod.fst)) ∧
      resolve (some (.object others)) = .error (.unknownShape (others.map Prod.fst)) := by
  have hmost := present?_congr h.maxFee
  by_cases hunset : Unset members maxFeeName
  · have hprice := present?_congr (h.price hunset)
    have hnone : present? members maxFeeName = none := present?_eq_none_iff.mpr hunset
    cases hgiven : present? members priceName with
    | none =>
      refine Or.inr ⟨?_, ?_⟩
      · rw [resolve, ofMembers, hnone, hgiven]
        rfl
      · rw [resolve, ofMembers, ← hmost, ← hprice, hnone, hgiven]
        rfl
    | some given =>
      refine Or.inl ?_
      rw [resolve, resolve, ofMembers, ofMembers, ← hmost, ← hprice, hnone, hgiven]
  · have hpriorityFee := present?_congr (h.priorityFee hunset)
    obtain ⟨most, hsome⟩ := not_unset_iff.mp hunset
    refine Or.inl ?_
    rw [resolve, resolve, ofMembers, ofMembers, ← hmost, ← hpriorityFee, hsome]

/-- The names that are reported for a value that was read ascend by their bytes. -/
theorem pairwise_of_unknownShape {depth : Nat} {outline : Json.Outline} {given : Json}
    {names : List String} (hread : outline.read depth = .ok given)
    (h : resolve (some given) = .error (.unknownShape names)) :
    names.Pairwise fun first second => Hex.utf8 first.toList < Hex.utf8 second.toList := by
  obtain ⟨members, hgiven, -, -, rfl⟩ := resolve_eq_unknownShape_iff.mp h
  cases hgiven
  exact Json.pairwise_bytes_of_read hread

/-- **Gas prices.** A missing value and `null` leave the price to the node. A number or string that is
a quantity is a price as such; an object with a most offers the two prices of a fee market, the
producer's part being zero where it is not set; an object without a most offers its single price.
Everything else is refused: a value that is no object for what is wrong with it as a quantity; an
object with neither a most nor a price for its shape, with all its names in the order of their bytes;
any other object for the member at fault, where the producer's part comes before the most and counts
only beside it. Other members do not matter where a shape is known. -/
theorem resolve_outcomes (value : Option Json) :
    (resolve value = .ok none ↔ value = none ∨ value = some .null) ∧
    (∀ price, resolve value = .ok (some (.flat price)) ↔ ∃ given, value = some given ∧
      ((∃ literal, given = .number literal) ∨ ∃ text, given = .string text) ∧
      Quantity.ofJson given = .ok price) ∧
    (∀ maxFee priorityFee, resolve value = .ok (some (.market maxFee priorityFee)) ↔
      ∃ members, value = some (.object members) ∧ Holds members maxFeeName maxFee ∧
        (Unset members priorityFeeName ∧ priorityFee = .zero ∨
          Holds members priorityFeeName priorityFee)) ∧
    (∀ price, resolve value = .ok (some (.nested price)) ↔
      ∃ members, value = some (.object members) ∧ Unset members maxFeeName ∧
        Holds members priceName price) ∧
    (∀ cause, resolve value = .error (.quantity cause) ↔ ∃ given, value = some given ∧
      given ≠ .null ∧ (∀ members, given ≠ .object members) ∧
      Quantity.ofJson given = .error cause) ∧
    (∀ names, resolve value = .error (.unknownShape names) ↔
      ∃ members, value = some (.object members) ∧ Unset members maxFeeName ∧
        Unset members priceName ∧ names = members.map Prod.fst) ∧
    (∀ name cause, resolve value = .error (.member name cause) ↔
      ∃ members, value = some (.object members) ∧ Spoils members name cause ∧
        (name = priorityFeeName ∧ ¬ Unset members maxFeeName ∨
          name = maxFeeName ∧ (Unset members priorityFeeName ∨
            ∃ priorityFee, Holds members priorityFeeName priorityFee) ∨
          name = priceName ∧ Unset members maxFeeName)) ∧
    (∀ depth (outline : Json.Outline) given names, outline.read depth = .ok given →
      resolve (some given) = .error (.unknownShape names) →
      (names.Pairwise fun first second => Hex.utf8 first.toList < Hex.utf8 second.toList) ∧
      (GasPriceError.unknownShape names).message =
        "unrecognised object shape (keys: " ++ ", ".intercalate names ++ ")") ∧
    (∀ members others, Agree members others →
      (∀ names, resolve (some (.object members)) ≠ .error (.unknownShape names)) →
      resolve (some (.object others)) = resolve (some (.object members))) := by
  refine ⟨resolve_eq_none_iff, fun _ => resolve_eq_flat_iff, fun _ _ => resolve_eq_market_iff,
    fun _ => resolve_eq_nested_iff, fun _ => resolve_eq_quantity_iff,
    fun _ => resolve_eq_unknownShape_iff, fun _ _ => resolve_eq_member_iff, ?_, ?_⟩
  · intro depth outline given names hread h
    exact ⟨pairwise_of_unknownShape hread h, rfl⟩
  · intro members others hagree hshape
    rcases resolve_congr hagree with hsame | ⟨hunknown, -⟩
    · exact hsame.symm
    · exact absurd hunknown (hshape _)

/-- Where both prices of a fee market are at fault, the producer's part is reported. -/
example : resolve (some (.object [(maxFeeName, .string "1 2"), (priorityFeeName, .bool true)])) =
    .error (.member priorityFeeName (.unexpectedType "boolean")) := rfl

end GasPrice

end TxGateway
