import TxGateway.Proofs.Draft
import TxGateway.Proofs.Json.Readback
import TxGateway.Proofs.SentTransaction
import TxGateway.Proofs.Submission
/-!
# Restating a transaction

The texts of a transaction that was sent make a request again: the fields under their names, the
data under the name that requests use, and the fee as a gas price. The main results:

* `SendRequest.parse_entries` : a request that is given by the fields that it sets is read back;
* `Transaction.prepare_toRequest` : the request that a transaction makes is prepared to it;
* `Connector.sent_in_canonical_form` : what reaches the node is canonical, and restating it changes
  nothing.
-/

namespace TxGateway

open Json Fallible Layout

/-! ## Requests by the fields they set -/

namespace SendRequest

/-- The entries of the fields that a request sets, apart from its header and whether it is signed.
The numbers are given in hex. -/
def entries (request : SendRequest) : List (Entry SendRequest) :=
  Entry.ofField "from" (fun sender request => { request with sender := sender }) .string
    request.sender ++
  Entry.ofField "to" (fun recipient request => { request with recipient := recipient }) .string
    request.recipient ++
  Entry.ofField "gas" (fun gas request => { request with gas := gas })
    (fun gas => .string gas.text) request.gas ++
  Entry.ofField "nonce" (fun nonce request => { request with nonce := nonce })
    (fun nonce => .string nonce.text) request.nonce ++
  Entry.ofField "value" (fun value request => { request with value := value })
    (fun value => .string value.text) request.value ++
  Entry.ofField "transactionData" (fun data request => { request with data := data }) .string
    request.data ++
  Entry.ofField "gasPrice" (fun gasPrice request => { request with gasPrice := gasPrice })
    (fun value => value) request.gasPrice

/-- A request as an object of the fields that it sets. -/
def setFields (request : SendRequest) : Json := .object (request.entries.map Entry.member)

variable {request : SendRequest}

/-- No two entries of a request have the same name. -/
theorem names_entries_nodup (request : SendRequest) :
    (request.entries.map Entry.name).Nodup := by
  have hnames : (request.entries.map Entry.name).Sublist
      ["from", "to", "gas", "nonce", "value", "transactionData", "gasPrice"] := by
    simp only [entries, List.map_append]
    exact ((((((Entry.names_ofField_sublist "from" _ _ _).append
      (Entry.names_ofField_sublist "to" _ _ _)).append
      (Entry.names_ofField_sublist "gas" _ _ _)).append
      (Entry.names_ofField_sublist "nonce" _ _ _)).append
      (Entry.names_ofField_sublist "value" _ _ _)).append
      (Entry.names_ofField_sublist "transactionData" _ _ _)).append
      (Entry.names_ofField_sublist "gasPrice" _ _ _)
  exact hnames.nodup (by decide)

/-- Making the changes of a request's entries gives the request. -/
theorem foldl_entries (hheader : request.header = none) (hsigned : request.preSigned = false) :
    request.entries.foldl (fun record entry => entry.change record) layout.blank = request := by
  obtain ⟨header, sender, recipient, gas, nonce, value, data, gasPrice, preSigned⟩ := request
  cases hheader
  cases hsigned
  simp only [entries, List.foldl_append]
  -- From the innermost field outwards: each is still unset when its entry changes the record.
  rw [Entry.foldl_ofField "from", Entry.foldl_ofField "to", Entry.foldl_ofField "gas",
    Entry.foldl_ofField "nonce", Entry.foldl_ofField "value", Entry.foldl_ofField "transactionData",
    Entry.foldl_ofField "gasPrice"]
  all_goals rfl

/-- The hex text of a quantity is accepted as the quantity. -/
theorem quantityRule_text (quantity : Quantity) :
    quantityRule (.string quantity.text) = .ok quantity := by
  have htext := Quantity.ofText_text quantity
  show (Quantity.ofText quantity.text).mapError _ = .ok quantity
  rw [htext]
  rfl

/-- The hex text of a gas limit is accepted as the gas limit. -/
theorem gasRule_text (gas : GasLimit) : gasRule (.string gas.text) = .ok gas := by
  have hquantity := quantityRule_text gas.toQuantity
  have hfits := GasLimit.ofQuantity?_toQuantity gas
  rw [GasLimit.text_toQuantity] at hquantity
  simp [gasRule, hquantity, hfits, bind, Except.bind, pure, Except.pure]

/-- The entries of a request fit the fields of requests. -/
theorem fits_entries {depth : Nat}
    (hprice : ∀ value, request.gasPrice = some value → value ≠ .null ∧ Readable depth value) :
    ∀ entry ∈ request.entries, entry.Fits layout depth := by
  have htext : ∀ text, Reader.optional Reader.text depth (Json.string text).outline =
      .ok (some text) := by
    intro text
    exact Reader.optional_outline (by simp) (Reader.text_outline depth text)
  have hquantity : ∀ quantity : Quantity,
      Reader.optional (Reader.judged Reader.value quantityRule) depth
        (Json.string quantity.text).outline = .ok (some quantity) := by
    intro quantity
    exact Reader.optional_outline (by simp)
      (Reader.judged_outline trivial (quantityRule_text quantity))
  have hgas : ∀ gas : GasLimit,
      Reader.optional (Reader.judged Reader.value gasRule) depth
        (Json.string gas.text).outline = .ok (some gas) := by
    intro gas
    exact Reader.optional_outline (by simp) (Reader.judged_outline trivial (gasRule_text gas))
  simp only [entries, List.forall_mem_append]
  refine ⟨⟨⟨⟨⟨⟨?_, ?_⟩, ?_⟩, ?_⟩, ?_⟩, ?_⟩, ?_⟩
  · exact Entry.fits_ofField rfl fun text _ => ⟨trivial, htext text⟩
  · exact Entry.fits_ofField rfl fun text _ => ⟨trivial, htext text⟩
  · exact Entry.fits_ofField rfl fun gas _ => ⟨trivial, hgas gas⟩
  · exact Entry.fits_ofField rfl fun quantity _ => ⟨trivial, hquantity quantity⟩
  · exact Entry.fits_ofField rfl fun quantity _ => ⟨trivial, hquantity quantity⟩
  · exact Entry.fits_ofField rfl fun text _ => ⟨trivial, htext text⟩
  · refine Entry.fits_ofField rfl fun value hvalue => ?_
    obtain ⟨hnull, hreadable⟩ := hprice value hvalue
    exact ⟨hreadable.legible, Reader.optional_outline hnull (read_outline hreadable)⟩

/-- **Reading a request.** A request that is printed as the fields that it sets is read back. -/
theorem parse_setFields (hheader : request.header = none) (hsigned : request.preSigned = false)
    (hprice : ∀ value, request.gasPrice = some value → value ≠ .null ∧ Readable 126 value) :
    parse request.setFields.compact = .ok request := by
  have hread := Layout.parse_entries (fits_entries hprice) request.names_entries_nodup
    presence_ne_required
  rw [foldl_entries hheader hsigned] at hread
  exact hread

/-- The members of a request that is printed as the fields that it sets. -/
theorem setFields_eq (request : SendRequest) :
    request.setFields = .object (
      member? "from" (request.sender.map .string) ++
      member? "to" (request.recipient.map .string) ++
      member? "gas" (request.gas.map fun gas => .string gas.text) ++
      member? "nonce" (request.nonce.map fun nonce => .string nonce.text) ++
      member? "value" (request.value.map fun value => .string value.text) ++
      member? "transactionData" (request.data.map .string) ++
      member? "gasPrice" request.gasPrice) := by
  simp only [setFields, entries, List.map_append, Entry.map_member_ofField, Option.map_id_fun',
    id_eq]

end SendRequest

/-! ## The request that a transaction makes -/

/-- The gas price that a fee makes: a price as such, or the two prices of the market. -/
def Fee.toJson : Fee → Json
  | legacy price => .string price.text
  | market maxFee priorityFee =>
    .object [("maxFeePerGas", .string maxFee.text),
      ("maxPriorityFeePerGas", .string priorityFee.text)]

/-- The gas price of a fee is readable and something other than `null`. -/
theorem Fee.readable_toJson (fee : Fee) : fee.toJson ≠ .null ∧ Readable 126 fee.toJson := by
  cases fee with
  | legacy price => exact ⟨by simp [toJson], trivial⟩
  | market maxFee priorityFee =>
    refine ⟨by simp [toJson], ?_, trivial, ?_, ?_, trivial, ?_, trivial⟩
    · decide
    · intro member hmember
      rw [List.mem_singleton.mp hmember]
      show "maxFeePerGas" < "maxPriorityFeePerGas"
      decide
    · decide
    · intro member hmember
      cases hmember

/-- The gas price that a fee makes asks for the fee. -/
theorem Fee.asks_toJson (fee : Fee) : GasPrice.Asks (some fee.toJson) (some fee) := by
  have hspelled : ∀ quantity : Quantity, Quantity.Spelled (.string quantity.text) quantity.toNat :=
    fun quantity => .string (Quantity.ofText_eq_ok_iff.mp (Quantity.ofText_text quantity))
  cases fee with
  | legacy price => exact .flat (hspelled price)
  | market maxFee priorityFee =>
    exact .market ⟨_, rfl, hspelled maxFee⟩ ⟨_, rfl, hspelled priorityFee⟩

namespace Transaction

/-- The request that the texts of a transaction make. -/
def toRequest (transaction : Transaction) : SendRequest where
  header := none
  sender := some (Address.text transaction.sender)
  recipient := transaction.recipient.map Address.text
  gas := transaction.gas
  nonce := transaction.nonce
  value := transaction.value
  data := transaction.data.map Hex.encode
  gasPrice := transaction.fee.map Fee.toJson
  preSigned := false

/-- The request that a transaction makes is read back. -/
theorem parse_toRequest (transaction : Transaction) :
    SendRequest.parse transaction.toRequest.setFields.compact = .ok transaction.toRequest := by
  apply SendRequest.parse_setFields rfl rfl
  intro value hvalue
  obtain ⟨fee, -, rfl⟩ := Option.map_eq_some_iff.mp hvalue
  exact fee.readable_toJson

/-- The request that a transaction makes asks for the fee of the transaction. -/
theorem fee?_toRequest (transaction : Transaction) :
    transaction.toRequest.fee? = .ok transaction.fee := by
  rw [SendRequest.fee?_eq_ok_iff]
  cases hfee : transaction.fee with
  | none =>
    rw [toRequest, hfee]
    exact .absent
  | some fee =>
    rw [toRequest, hfee]
    exact fee.asks_toJson

/-- **Stability.** The request that a transaction makes is prepared to the transaction. -/
theorem prepare_toRequest (transaction : Transaction) :
    transaction.toRequest.prepare = .ok (.unsigned transaction) := by
  refine SendRequest.prepare_eq_unsigned_iff.mpr ⟨rfl, ?_⟩
  -- Each text is read back; the numbers are already in the request.
  refine SendRequest.transaction_eq_ok_iff.mpr ⟨?_, ?_, ?_, ?_, rfl, rfl, rfl⟩
  · exact SendRequest.data?_eq_ok_iff.mpr (rel_decode _ Hex.decode_encode)
  · exact SendRequest.senderAddress_eq_ok_iff.mpr (Hex.decodeFixed_encode transaction.sender)
  · exact SendRequest.recipientAddress?_eq_ok_iff.mpr (rel_decode _ Hex.decodeFixed_encode)
  · exact transaction.fee?_toRequest

end Transaction

/-! ## Restating what was sent -/

/-- The gas price that the members of a sent transaction make: their price, or the object of the two
prices of the market. -/
def restatedGasPrice (sent : List (String × Json)) : Option Json :=
  match find? "maxFeePerGas" sent with
  | some most =>
    some (.object (("maxFeePerGas", most) ::
      member? "maxPriorityFeePerGas" (find? "maxPriorityFeePerGas" sent)))
  | none => find? "gasPrice" sent

/-- The request that the members of a sent transaction make, each text as it was sent. -/
def restated (sent : List (String × Json)) : Json :=
  .object (
    member? "from" (find? "from" sent) ++
    member? "to" (find? "to" sent) ++
    member? "gas" (find? "gas" sent) ++
    member? "nonce" (find? "nonce" sent) ++
    member? "value" (find? "value" sent) ++
    member? "transactionData" (find? "data" sent) ++
    member? "gasPrice" (restatedGasPrice sent))

namespace Transaction

/-- The gas price of a sent transaction is the one that its fee makes. -/
theorem restatedGasPrice_sorted (transaction : Transaction) :
    restatedGasPrice transaction.sorted = transaction.fee.map Fee.toJson := by
  obtain ⟨hprice, hmost, hpart⟩ := transaction.find?_sorted_fees
  rw [restatedGasPrice, hprice, hmost, hpart]
  rcases transaction.fee with _ | ⟨price⟩ | ⟨maxFee, priorityFee⟩
  · rfl
  · rfl
  · rfl

/-- What a sent transaction restates is the request that the transaction makes. -/
theorem restated_sorted (transaction : Transaction) :
    restated transaction.sorted = transaction.toRequest.setFields := by
  obtain ⟨hsender, hrecipient, hgas, hnonce, hvalue, hdata⟩ := transaction.find?_sorted_fields
  rw [SendRequest.setFields_eq, restated, hsender, hrecipient, hgas, hnonce, hvalue, hdata,
    restatedGasPrice_sorted]
  simp only [toRequest, Option.map_map, Option.map_some]
  rfl

end Transaction

/-- **Canonical form, and stability.** A request that the node is to sign reaches the node as one
object that states it in canonical form. The request that restates this object's own texts is
accepted, and is prepared to the same transaction. -/
theorem Connector.sent_in_canonical_form {request : SendRequest} {transaction : Transaction}
    (h : request.prepare = .ok (.unsigned transaction)) :
    ∃ sent, request.StatedBy sent ∧
      (∀ (connector : Connector) (node : Node.Behaviour),
        (connector.submit node request).calls =
          [⟨.sendTransaction, .array [.object sent]⟩]) ∧
      ∃ again, SendRequest.parse (restated sent).compact = .ok again ∧
        again.prepare = .ok (.unsigned transaction) := by
  obtain ⟨-, htransaction⟩ := SendRequest.prepare_eq_unsigned_iff.mp h
  refine ⟨transaction.sorted, SendRequest.statedBy_sorted htransaction, ?_, ?_⟩
  · intro connector node
    rw [calls_submit_of_ok connector node h]
    rfl
  · refine ⟨transaction.toRequest, ?_, transaction.prepare_toRequest⟩
    rw [transaction.restated_sorted]
    exact transaction.parse_toRequest

/-- A request whose texts are not in canonical form, with an offer for the fee market. -/
def SendRequest.sample : SendRequest :=
  { SendRequest.empty with
    sender := some " 0XABabABabABabABabABabABabABabABabABabABab\n"
    nonce := some .zero
    data := some "0xfE"
    gasPrice := some (.object [("maxFeePerGas", .number "100"), ("gasPrice", .bool true)]) }

/-- The transaction of the sample. -/
def Transaction.sample : Transaction where
  sender := ⟨List.replicate 20 0xab, rfl⟩
  recipient := none
  gas := none
  nonce := some .zero
  value := none
  data := some [0xfe]
  fee := some (.market ⟨100, by decide⟩ .zero)

/-- A request whose price stands inside an object, beside a most that is not set. -/
def SendRequest.nestedSample : SendRequest :=
  { SendRequest.empty with
    sender := some "0xabababababababababababababababababababab"
    gasPrice := some (.object [("gasPrice", .string " 0X0Fa0"), ("maxFeePerGas", .null)]) }

/-- The transaction of the sample with the nested price. -/
def Transaction.nestedSample : Transaction where
  sender := ⟨List.replicate 20 0xab, rfl⟩
  recipient := none
  gas := none
  nonce := none
  value := none
  data := none
  fee := some (.legacy ⟨4000, by decide⟩)

/-- The samples, as they are sent and restated, and the fees that they state. -/
theorem Connector.sent_in_canonical_form_sample :
    (SendRequest.sample.prepare = .ok (.unsigned Transaction.sample) ∧
      ∃ sent, SendRequest.sample.StatedBy sent ∧
        StatesFee sent (some (.market ⟨100, by decide⟩ .zero)) ∧
        (∀ (connector : Connector) (node : Node.Behaviour),
          (connector.submit node SendRequest.sample).calls =
            [⟨.sendTransaction, .array [.object sent]⟩]) ∧
        ∃ again, SendRequest.parse (restated sent).compact = .ok again ∧
          again.prepare = .ok (.unsigned Transaction.sample)) ∧
    (SendRequest.nestedSample.prepare = .ok (.unsigned Transaction.nestedSample) ∧
      ∃ sent, SendRequest.nestedSample.StatedBy sent ∧
        StatesFee sent (some (.legacy ⟨4000, by decide⟩)) ∧
        (∀ (connector : Connector) (node : Node.Behaviour),
          (connector.submit node SendRequest.nestedSample).calls =
            [⟨.sendTransaction, .array [.object sent]⟩]) ∧
        ∃ again, SendRequest.parse (restated sent).compact = .ok again ∧
          again.prepare = .ok (.unsigned Transaction.nestedSample)) := by
  have hmarket : SendRequest.sample.prepare = .ok (.unsigned Transaction.sample) := by
    rfl
  have hnested : SendRequest.nestedSample.prepare = .ok (.unsigned Transaction.nestedSample) := by
    rfl
  obtain ⟨marketSent, hmarketStated, hmarketRest⟩ := Connector.sent_in_canonical_form hmarket
  obtain ⟨nestedSent, hnestedStated, hnestedRest⟩ := Connector.sent_in_canonical_form hnested
  exact ⟨⟨hmarket, marketSent, hmarketStated, hmarketStated.statesFee rfl, hmarketRest⟩,
    hnested, nestedSent, hnestedStated, hnestedStated.statesFee rfl, hnestedRest⟩

end TxGateway
