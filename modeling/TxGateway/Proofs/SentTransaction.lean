import TxGateway.Proofs.Json.Members
import TxGateway.Proofs.Preparation
/-!
# Transactions as they are sent

The object that stands for a transaction in the call of the node. `SendRequest.StatedBy` says when
members state a request in canonical form: which members there are, how they are written, and what
they denote. The main results:

* `Transaction.find?_sorted` : a member is found in the object as the transaction has it;
* `statedBy_sorted` : the object of the transaction of a request states the request.
-/

namespace TxGateway

open Json

/-! ## The form of a transaction -/

/-- The canonical text of an address: the marker `0x`, and forty hex digits in lower case. -/
def Address.IsCanonicalText (text : String) (address : Address) : Prop :=
  ∃ digits, text.toList = '0' :: 'x' :: digits ∧ digits.length = 40 ∧
    Hex.AreLowerDigits digits address.bytes

/-- An address is written as its canonical text. -/
theorem Address.isCanonicalText_text (address : Address) :
    IsCanonicalText (Address.text address) address := by
  obtain ⟨digits, htext, hdigits⟩ := Hex.isLowerText_encode address.bytes
  refine ⟨digits, htext, ?_, hdigits⟩
  rw [hdigits.length_eq, address.length_eq]

/-- A value is a string with a property. -/
def IsText (property : String → Prop) (value : Json) : Prop :=
  ∃ text, value = .string text ∧ property text

/-- The names that the members of a transaction may have. -/
def Transaction.names : List String :=
  ["from", "to", "gas", "nonce", "value", "data", "gasPrice", "maxFeePerGas",
    "maxPriorityFeePerGas"]

/-- Members state a fee: no fee by none of three members, a legacy fee by the first alone, and a fee
of the market by the other two. -/
inductive StatesFee (sent : List (String × Json)) : Option Fee → Prop
  | none (noPrice : find? "gasPrice" sent = none) (noMost : find? "maxFeePerGas" sent = none)
      (noPart : find? "maxPriorityFeePerGas" sent = none) : StatesFee sent none
  | legacy {price : Quantity} {text : String}
      (isPrice : find? "gasPrice" sent = some (.string text))
      (minimal : Quantity.IsMinimalText text price.toNat)
      (noMost : find? "maxFeePerGas" sent = none)
      (noPart : find? "maxPriorityFeePerGas" sent = none) : StatesFee sent (some (.legacy price))
  | market {maxFee priorityFee : Quantity} {most part : String}
      (noPrice : find? "gasPrice" sent = none)
      (isMost : find? "maxFeePerGas" sent = some (.string most))
      (minimalMost : Quantity.IsMinimalText most maxFee.toNat)
      (isPart : find? "maxPriorityFeePerGas" sent = some (.string part))
      (minimalPart : Quantity.IsMinimalText part priorityFee.toNat) :
      StatesFee sent (some (.market maxFee priorityFee))

/-- Members that state no fee state no other. -/
theorem StatesFee.eq_none {sent : List (String × Json)} {fee : Option Fee}
    (hnone : StatesFee sent Option.none) (h : StatesFee sent fee) : fee = Option.none := by
  obtain ⟨noPrice, noMost, -⟩ := hnone
  cases h with
  | none => rfl
  | legacy isPrice _ _ _ =>
    rw [noPrice] at isPrice
    cases isPrice
  | market _ isMost _ _ _ =>
    rw [noMost] at isMost
    cases isMost

/-- Members state a request in canonical form. -/
structure SendRequest.StatedBy (request : SendRequest) (sent : List (String × Json)) : Prop where
  /-- The names are in order, and none stands twice. -/
  ordered : sent.Pairwise Precedes
  /-- There are no members of other names. -/
  known : ∀ member ∈ sent, member.1 ∈ Transaction.names
  /-- The sender is always stated. -/
  sender : ∃ address value, Address.ofText (request.sender.getD "") = .ok address ∧
    find? "from" sent = some value ∧ IsText (Address.IsCanonicalText · address) value
  recipient : Option.Rel (fun input value => ∃ address, Address.ofText input = .ok address ∧
    IsText (Address.IsCanonicalText · address) value) request.recipient (find? "to" sent)
  gas : Option.Rel (fun gas value => IsText (Quantity.IsMinimalText · gas.toNat) value)
    request.gas (find? "gas" sent)
  nonce : Option.Rel (fun nonce value => IsText (Quantity.IsMinimalText · nonce.toNat) value)
    request.nonce (find? "nonce" sent)
  value : Option.Rel (fun amount value => IsText (Quantity.IsMinimalText · amount.toNat) value)
    request.value (find? "value" sent)
  data : Option.Rel (fun input value => ∃ bytes, Hex.decode input = .ok bytes ∧
    IsText (Hex.IsLowerText · bytes) value) request.data (find? "data" sent)
  /-- The fee is the one that the gas price of the request asks for. -/
  fee : ∃ fee, GasPrice.Asks request.gasPrice fee ∧ StatesFee sent fee
  /-- No fee is stated exactly where the request names no gas price. -/
  unpriced : StatesFee sent none ↔ request.gasPrice = none ∨ request.gasPrice = some .null

/-- Members that state a request state the fee that is found for it. -/
theorem SendRequest.StatedBy.statesFee {request : SendRequest} {sent : List (String × Json)}
    {fee : Option Fee} (h : request.StatedBy sent) (hfee : request.fee? = .ok fee) :
    StatesFee sent fee := by
  obtain ⟨asked, hasks, hstates⟩ := h.fee
  rw [← fee?_eq_ok_iff, hfee] at hasks
  cases hasks
  exact hstates

/-! ## The members of a transaction -/

namespace Transaction

variable (transaction : Transaction)

/-- The members of a transaction in the order in which they are sent. -/
def sorted : List (String × Json) :=
  transaction.members.foldl (fun sorted member => insert member.1 member.2 sorted) []

/-- The members that are not about the fee. -/
def fields : List (String × Json) :=
  [("from", Json.string (Address.text transaction.sender))] ++
  member? "to" (transaction.recipient.map fun address => .string (Address.text address)) ++
  member? "gas" (transaction.gas.map fun gas => .string gas.text) ++
  member? "nonce" (transaction.nonce.map fun nonce => .string nonce.text) ++
  member? "value" (transaction.value.map fun value => .string value.text) ++
  member? "data" (transaction.data.map fun data => .string (Hex.encode data))

/-- The members that state a fee, if there is one. -/
def feeMembers : Option Fee → List (String × Json)
  | some fee => fee.members
  | none => []

/-- The members of a transaction are its fields and those of its fee. -/
theorem members_eq : transaction.members = transaction.fields ++ feeMembers transaction.fee := rfl

/-- The names of the fields of a transaction, in their order. -/
theorem names_fields_sublist :
    (transaction.fields.map Prod.fst).Sublist ["from", "to", "gas", "nonce", "value", "data"] := by
  have hmember : ∀ name value, ((member? name value).map Prod.fst).Sublist [name] := by
    intro name value
    cases value with
    | none => exact List.nil_sublist _
    | some value => exact List.Sublist.refl _
  have hsender := List.Sublist.refl ["from"]
  simp only [fields, List.map_append]
  exact ((((hsender.append (hmember "to" _)).append (hmember "gas" _)).append
    (hmember "nonce" _)).append (hmember "value" _)).append (hmember "data" _)

/-- The names of the members of a fee, in their order. -/
theorem names_feeMembers_sublist (fee : Option Fee) :
    ((feeMembers fee).map Prod.fst).Sublist
      ["gasPrice", "maxFeePerGas", "maxPriorityFeePerGas"] := by
  rcases fee with _ | ⟨price⟩ | ⟨maxFee, priorityFee⟩
  · exact List.nil_sublist _
  · exact List.Sublist.cons_cons _ (List.nil_sublist _)
  · exact List.Sublist.cons _ (List.Sublist.refl _)

/-- The names of a transaction's members are names of a transaction, each at most once. -/
theorem names_members_sublist : (transaction.members.map Prod.fst).Sublist names := by
  rw [members_eq, List.map_append]
  exact transaction.names_fields_sublist.append (names_feeMembers_sublist transaction.fee)

/-- A member is found among the sorted members in the fields, or in the fee. -/
theorem find?_sorted (name : String) :
    find? name transaction.sorted =
      (find? name transaction.fields).or (find? name (feeMembers transaction.fee)) := by
  have hnames : (transaction.members.map Prod.fst).Nodup :=
    transaction.names_members_sublist.nodup (by decide)
  rw [sorted, find?_foldl_insert name hnames, find?_nil, Option.or_none, members_eq, find?_append]

/-- A field is found among the sorted members as it is found in the fields. -/
theorem find?_sorted_of_field {name : String}
    (h : name ∉ ["gasPrice", "maxFeePerGas", "maxPriorityFeePerGas"]) :
    find? name transaction.sorted = find? name transaction.fields := by
  have hfee : find? name (feeMembers transaction.fee) = none := by
    apply find?_eq_none_of_not_mem
    intro hname
    exact h ((names_feeMembers_sublist transaction.fee).subset hname)
  rw [find?_sorted, hfee, Option.or_none]

/-- A part of the fee is found among the sorted members as it is found in the fee. -/
theorem find?_sorted_of_fee {name : String}
    (h : name ∉ ["from", "to", "gas", "nonce", "value", "data"]) :
    find? name transaction.sorted = find? name (feeMembers transaction.fee) := by
  have hfields : find? name transaction.fields = none := by
    apply find?_eq_none_of_not_mem
    intro hname
    exact h (transaction.names_fields_sublist.subset hname)
  rw [find?_sorted, hfields, Option.none_or]

/-- The fields of a transaction are found as the transaction has them. -/
theorem find?_sorted_fields :
    find? "from" transaction.sorted = some (.string (Address.text transaction.sender)) ∧
    find? "to" transaction.sorted =
      transaction.recipient.map (fun address => .string (Address.text address)) ∧
    find? "gas" transaction.sorted = transaction.gas.map (fun gas => .string gas.text) ∧
    find? "nonce" transaction.sorted = transaction.nonce.map (fun nonce => .string nonce.text) ∧
    find? "value" transaction.sorted = transaction.value.map (fun value => .string value.text) ∧
    find? "data" transaction.sorted =
      transaction.data.map (fun data => .string (Hex.encode data)) := by
  refine ⟨?_, ?_, ?_, ?_, ?_, ?_⟩
  all_goals
    rw [find?_sorted_of_field transaction (by decide)]
    simp [fields, find?_append, find?_member?, find?_cons]

/-- The parts of a fee are found as the fee has them. -/
theorem find?_sorted_fees :
    find? "gasPrice" transaction.sorted = find? "gasPrice" (feeMembers transaction.fee) ∧
    find? "maxFeePerGas" transaction.sorted = find? "maxFeePerGas" (feeMembers transaction.fee) ∧
    find? "maxPriorityFeePerGas" transaction.sorted =
      find? "maxPriorityFeePerGas" (feeMembers transaction.fee) := by
  refine ⟨?_, ?_, ?_⟩
  all_goals exact find?_sorted_of_fee transaction (by decide)

/-- The fee of a transaction is stated by its members. -/
theorem statesFee_sorted : StatesFee transaction.sorted transaction.fee := by
  obtain ⟨hprice, hmost, hpart⟩ := transaction.find?_sorted_fees
  rcases hfee : transaction.fee with _ | ⟨price⟩ | ⟨maxFee, priorityFee⟩
  · rw [hfee] at hprice hmost hpart
    exact .none hprice hmost hpart
  · rw [hfee] at hprice hmost hpart
    exact .legacy hprice (Quantity.isMinimalText_text price) hmost hpart
  · rw [hfee] at hprice hmost hpart
    exact .market hprice hmost (Quantity.isMinimalText_text maxFee) hpart
      (Quantity.isMinimalText_text priorityFee)

end Transaction

/-! ## The whole -/

/-- **Canonical form.** The members of the transaction of a request state the request. -/
theorem SendRequest.statedBy_sorted {request : SendRequest} {transaction : Transaction}
    (h : request.transaction = .ok transaction) : request.StatedBy transaction.sorted := by
  obtain ⟨hdata, hsender, hrecipient, hfee, hgas, hnonce, hvalue⟩ := transaction_eq_ok_iff.mp h
  have hasks := fee?_eq_ok_iff.mp hfee
  have hstates := transaction.statesFee_sorted
  obtain ⟨isSender, isRecipient, isGas, isNonce, isValue, isData⟩ := transaction.find?_sorted_fields
  constructor
  · exact pairwise_foldl_insert transaction.members List.Pairwise.nil
  · intro member hmember
    rcases mem_foldl_insert hmember with hmember | hmember
    · exact transaction.names_members_sublist.subset (List.mem_map_of_mem hmember)
    · cases hmember
  · exact ⟨transaction.sender, _, senderAddress_eq_ok_iff.mp hsender, isSender, _, rfl,
      Address.isCanonicalText_text transaction.sender⟩
  · rw [isRecipient]
    apply Fallible.rel_map (recipientAddress?_eq_ok_iff.mp hrecipient)
    intro input address haddress
    exact ⟨address, haddress, _, rfl, Address.isCanonicalText_text address⟩
  · rw [isGas, hgas]
    exact Fallible.rel_encode _ fun gas => ⟨_, rfl, GasLimit.isMinimalText_text gas⟩
  · rw [isNonce, hnonce]
    exact Fallible.rel_encode _ fun nonce => ⟨_, rfl, Quantity.isMinimalText_text nonce⟩
  · rw [isValue, hvalue]
    exact Fallible.rel_encode _ fun value => ⟨_, rfl, Quantity.isMinimalText_text value⟩
  · rw [isData]
    apply Fallible.rel_map (data?_eq_ok_iff.mp hdata)
    intro input bytes hbytes
    exact ⟨bytes, hbytes, _, rfl, Hex.isLowerText_encode bytes⟩
  · exact ⟨transaction.fee, hasks, hstates⟩
  · -- Members that state no fee state no other, so there is none to ask for.
    rw [← hasks.eq_none_iff]
    constructor
    · intro hnone
      exact hnone.eq_none hstates
    · intro hnone
      rwa [hnone] at hstates

end TxGateway
