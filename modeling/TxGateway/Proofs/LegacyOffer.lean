import TxGateway.Proofs.GasPriceDecision
import TxGateway.Proofs.SentTransaction
import TxGateway.Proofs.Submission
/-!
# Which members a legacy offer looks at

An object offers a single price when it has one and no most. Nothing else in it is looked at: beside
the price, a producer's part is dropped like any member of an unknown name, while an object that has
nothing but the part is refused for its shape.

* `GasPrice.setsOnly_of_nested_iff` : when an object taken for a single price sets nothing else;
* `GasPrice.resolve_insert_of_nested` : such a member makes no difference, whatever it holds;
* `Connector.sent_price_origin` : where the price of a transaction that is sent comes from;
* `GasPrice.legacy_offer_overlooks` : all of it together.
-/

namespace TxGateway

open Json

namespace GasPrice

variable {members : List (String × Json)} {price : Quantity}

/-- No member is set but the one of a name. -/
def SetsOnly (members : List (String × Json)) (name : String) : Prop :=
  ∀ other, other ≠ name → Unset members other

/-- The price and the most have two names. -/
theorem maxFeeName_ne_priceName : maxFeeName ≠ priceName := by decide

/-- A price on its own is an offer of that price. -/
theorem resolve_of_setsOnly (honly : SetsOnly members priceName)
    (h : Holds members priceName price) :
    resolve (some (.object members)) = .ok (some (.nested price)) :=
  resolve_eq_nested_iff.mpr ⟨members, rfl, honly maxFeeName maxFeeName_ne_priceName, h⟩

/-- An object that offers a single price holds it, and has no most. -/
theorem holds_of_nested (h : resolve (some (.object members)) = .ok (some (.nested price))) :
    Holds members priceName price ∧ Unset members maxFeeName := by
  obtain ⟨others, hmembers, hmost, hprice⟩ := resolve_eq_nested_iff.mp h
  cases hmembers
  exact ⟨hprice, hmost⟩

/-- **When nothing is overlooked.** That an object is taken for a single price shows that it sets
nothing else, exactly if it does set nothing else, or has a most, or its price is no quantity. -/
theorem setsOnly_of_nested_iff :
    (∀ price, resolve (some (.object members)) = .ok (some (.nested price)) →
        SetsOnly members priceName) ↔
      SetsOnly members priceName ∨ ¬ Unset members maxFeeName ∨
        ∀ price, ¬ Holds members priceName price := by
  constructor
  · intro h
    by_cases hmost : Unset members maxFeeName
    · by_cases hprice : ∃ price, Holds members priceName price
      · obtain ⟨price, hprice⟩ := hprice
        exact Or.inl (h price (resolve_eq_nested_iff.mpr ⟨members, rfl, hmost, hprice⟩))
      · exact Or.inr (Or.inr (not_exists.mp hprice))
    · exact Or.inr (Or.inl hmost)
  · rintro (honly | hmost | hprice) price h
    · exact honly
    · exact absurd (holds_of_nested h).2 hmost
    · exact absurd (holds_of_nested h).1 (hprice price)

/-- **What is overlooked.** Beside a price and without a most, a member of any other name makes no
difference, whatever it holds. -/
theorem resolve_insert_of_nested {name : String} (hprice : name ≠ priceName)
    (hmost : name ≠ maxFeeName) (value : Json)
    (h : resolve (some (.object members)) = .ok (some (.nested price))) :
    resolve (some (.object (insert name value members))) = .ok (some (.nested price)) := by
  obtain ⟨⟨given, hfound, hgiven⟩, hunset⟩ := holds_of_nested h
  refine resolve_eq_nested_iff.mpr ⟨_, rfl, ?_, given, ?_, hgiven⟩
  · intro other hother
    rw [find?_insert_of_ne hmost] at hother
    exact hunset other hother
  · rw [find?_insert_of_ne hprice]
    exact hfound

/-- A price beside a producer's part. -/
def priceWithPart : List (String × Json) :=
  [(priceName, .number "1"), (priorityFeeName, .number "2")]

/-- A request that offers a price beside a producer's part. -/
def tipped : SendRequest :=
  { SendRequest.empty with
    sender := some "0x000000000000000000000000000000000000000a"
    gasPrice := some (.object priceWithPart) }

/-- The part is set, and yet the object offers a single price; the transaction of the request has
this price alone. -/
theorem nested_priceWithPart :
    resolve (some (.object priceWithPart)) = .ok (some (.nested ⟨1, by decide⟩)) ∧
      ¬ SetsOnly priceWithPart priceName ∧
      ∃ transaction, tipped.prepare = .ok (.unsigned transaction) ∧
        transaction.fee = some (.legacy ⟨1, by decide⟩) := by
  refine ⟨rfl, ?_, _, rfl, rfl⟩
  intro honly
  have hnull := honly priorityFeeName (by decide) (.number "2") rfl
  cases hnull

/-- A single price that an optional value gives: as such, or in an object without a most. -/
inductive GivesPrice : Option Json → Quantity → Prop
  | flat {value : Json} {price : Quantity} (h : Quantity.ofJson value = .ok price) :
      GivesPrice (some value) price
  | nested {members : List (String × Json)} {price : Quantity} (most : Unset members maxFeeName)
      (h : Holds members priceName price) : GivesPrice (some (.object members)) price

/-- A value that asks for a legacy fee gives the price of that fee. -/
theorem Asks.givesPrice {value : Option Json} (h : Asks value (some (.legacy price))) :
    GivesPrice value price := by
  cases h with
  | flat h => exact .flat (Quantity.ofJson_eq_ok_iff.mpr h)
  | nested most h => exact .nested most (quotes_iff.mp h)

end GasPrice

/-- Members with a price state a legacy fee. -/
theorem StatesFee.exists_legacy {sent : List (String × Json)} {fee : Option Fee} {value : Json}
    (h : StatesFee sent fee) (hvalue : find? "gasPrice" sent = some value) :
    ∃ price, fee = some (.legacy price) := by
  cases h with
  | none noPrice =>
    rw [noPrice] at hvalue
    cases hvalue
  | legacy => exact ⟨_, rfl⟩
  | market noPrice =>
    rw [noPrice] at hvalue
    cases hvalue

namespace Connector

open GasPrice

variable {connector : Connector} {node : Node.Behaviour} {request : SendRequest}
  {sent : List (String × Json)}

/-- A transaction that is sent to be signed is the transaction of the request. -/
theorem exists_transaction_of_calls
    (hcalls : (connector.submit node request).calls =
      [⟨.sendTransaction, .array [.object sent]⟩]) :
    ∃ transaction, request.transaction = .ok transaction ∧ sent = transaction.sorted := by
  cases hprepare : request.prepare with
  | error cause =>
    rw [submit_of_error connector node hprepare] at hcalls
    cases hcalls
  | ok submission =>
    rw [calls_submit_of_ok connector node hprepare] at hcalls
    cases submission with
    | raw payload => cases hcalls
    | unsigned transaction =>
      cases hcalls
      exact ⟨transaction, (SendRequest.prepare_eq_unsigned_iff.mp hprepare).2, rfl⟩

/-- **Where a price comes from.** A transaction that is sent with a price states a legacy fee and no
other, and its price is the one that the request gives as such or in an object without a most. -/
theorem sent_price_origin {value : Json}
    (hcalls : (connector.submit node request).calls =
      [⟨.sendTransaction, .array [.object sent]⟩])
    (hvalue : find? "gasPrice" sent = some value) :
    ∃ price, StatesFee sent (some (.legacy price)) ∧ GivesPrice request.gasPrice price := by
  obtain ⟨transaction, htransaction, rfl⟩ := exists_transaction_of_calls hcalls
  obtain ⟨fee, hasks, hstates⟩ := (SendRequest.statedBy_sorted htransaction).fee
  obtain ⟨price, rfl⟩ := hstates.exists_legacy hvalue
  exact ⟨price, hstates, hasks.givesPrice⟩

end Connector

namespace GasPrice

/-- **Legacy offers.** An object is taken for a single price although it sets more than the price,
unless only the price is set in it, or there is a most, or the price is no quantity. A price on its
own is an offer of that price; beside it and without a most, a member of any other name makes no
difference, so that a producer's part is dropped; without either, the object is refused for its
shape. A transaction that is sent with a single price states no price of a fee market, and comes
from a request that gave the price as such, or in an object without a most. -/
theorem legacy_offer_overlooks (members : List (String × Json)) :
    ((∀ price, resolve (some (.object members)) = .ok (some (.nested price)) →
        SetsOnly members priceName) ↔
      SetsOnly members priceName ∨ ¬ Unset members maxFeeName ∨
        ∀ price, ¬ Holds members priceName price) ∧
    (∀ price, SetsOnly members priceName → Holds members priceName price →
      resolve (some (.object members)) = .ok (some (.nested price))) ∧
    (∀ price name value, name ≠ priceName → name ≠ maxFeeName →
      resolve (some (.object members)) = .ok (some (.nested price)) →
      resolve (some (.object (insert name value members))) = .ok (some (.nested price))) ∧
    (Unset members maxFeeName → Unset members priceName →
      resolve (some (.object members)) = .error (.unknownShape (members.map Prod.fst))) ∧
    (∀ (connector : Connector) node request sent value,
      (connector.submit node request).calls = [⟨.sendTransaction, .array [.object sent]⟩] →
      find? "gasPrice" sent = some value →
      ∃ price, StatesFee sent (some (.legacy price)) ∧ GivesPrice request.gasPrice price) := by
  refine ⟨setsOnly_of_nested_iff, fun _ => resolve_of_setsOnly, ?_, ?_, ?_⟩
  · intro price name value hprice hmost h
    exact resolve_insert_of_nested hprice hmost value h
  · intro hmost hprice
    exact resolve_eq_unknownShape_iff.mpr ⟨members, rfl, hmost, hprice, rfl⟩
  · intro connector node request sent value hcalls hvalue
    exact Connector.sent_price_origin hcalls hvalue

end GasPrice

end TxGateway
