import TxGateway.Proofs.Preparation
/-!
# The first fault

A request that the node is to sign has four fields that can be at fault at the same time. They are
checked in one order, and the first fault decides the failure. `SendRequest.Fails` says how a field
fails, apart from the others; `SendRequest.Decodes` says what comes of a request in which none does.

* `SendRequest.transaction_eq_error_iff` : the failure is that of the first field that fails;
* `SendRequest.FailsFirst.of_same` : what comes after that field makes no difference;
* `SendRequest.prepare_first_fault` : all of it together.
-/

namespace TxGateway.SendRequest

open Fallible

variable {request other : SendRequest}

/-! ## The fields that are checked -/

/-- A field that is checked. -/
inductive Checked where
  | data
  | sender
  | recipient
  | gasPrice
deriving DecidableEq, Repr

namespace Checked

/-- The place of a field in the order of the checks. -/
def place : Checked → Nat
  | data => 0
  | sender => 1
  | recipient => 2
  | gasPrice => 3

/-- Two requests are the same in a field. -/
def Same (first second : SendRequest) : Checked → Prop
  | data => first.data = second.data
  | sender => first.sender = second.sender
  | recipient => first.recipient = second.recipient
  | gasPrice => first.gasPrice = second.gasPrice

end Checked

/-- A field fails its check, with the field's own cause and, for an address, the text of the field.
A sender that is not given is the empty text. -/
inductive Fails (request : SendRequest) : Checked → ConnectorError → Prop
  | data {text : String} {cause : HexError} (set : request.data = some text)
      (h : Hex.decode text = .error cause) : Fails request .data (.invalidData cause)
  | sender {cause : HexError} (h : Address.ofText (request.sender.getD "") = .error cause) :
      Fails request .sender (.invalidSender (request.sender.getD "") cause)
  | recipient {text : String} {cause : HexError} (set : request.recipient = some text)
      (h : Address.ofText text = .error cause) :
      Fails request .recipient (.invalidRecipient text cause)
  | gasPrice {cause : GasPriceError} (h : GasPrice.resolve request.gasPrice = .error cause) :
      Fails request .gasPrice (.invalidGasPrice cause)

/-- A field passes its check. -/
def Passes (request : SendRequest) (field : Checked) : Prop := ∀ error, ¬ Fails request field error

/-- A field is the first that fails. -/
def FailsFirst (request : SendRequest) (field : Checked) (error : ConnectorError) : Prop :=
  Fails request field error ∧
    ∀ earlier : Checked, earlier.place < field.place → Passes request earlier

/-- A transaction holds what the fields of a request denote, and the numbers of the request as they
are. -/
structure Decodes (request : SendRequest) (transaction : Transaction) : Prop where
  data : Option.Rel (fun text bytes => Hex.decode text = .ok bytes) request.data transaction.data
  sender : Address.ofText (request.sender.getD "") = .ok transaction.sender
  recipient : Option.Rel (fun text address => Address.ofText text = .ok address)
    request.recipient transaction.recipient
  fee : GasPrice.Asks request.gasPrice transaction.fee
  gas_eq : transaction.gas = request.gas
  nonce_eq : transaction.nonce = request.nonce
  value_eq : transaction.value = request.value

/-! ## One check -/

/-- The check of a field, without what it reads. -/
def check (request : SendRequest) : Checked → Except ConnectorError Unit
  | .data => request.data?.map fun _ => ()
  | .sender => request.senderAddress.map fun _ => ()
  | .recipient => request.recipientAddress?.map fun _ => ()
  | .gasPrice => request.fee?.map fun _ => ()

/-- A field fails as its check does. -/
theorem fails_iff {field : Checked} {error : ConnectorError} :
    Fails request field error ↔ request.check field = .error error := by
  cases field with
  | data =>
    rw [check, map_eq_error_iff, data?_eq_error_iff]
    constructor
    · intro hfails
      cases hfails with
      | data set h => exact ⟨_, _, set, h, rfl⟩
    · rintro ⟨text, cause, set, h, rfl⟩
      exact .data set h
  | sender =>
    rw [check, map_eq_error_iff, senderAddress_eq_error_iff]
    constructor
    · intro hfails
      cases hfails with
      | sender h => exact ⟨_, h, rfl⟩
    · rintro ⟨cause, h, rfl⟩
      exact .sender h
  | recipient =>
    rw [check, map_eq_error_iff, recipientAddress?_eq_error_iff]
    constructor
    · intro hfails
      cases hfails with
      | recipient set h => exact ⟨_, _, set, h, rfl⟩
    · rintro ⟨text, cause, set, h, rfl⟩
      exact .recipient set h
  | gasPrice =>
    rw [check, map_eq_error_iff, fee?_eq_error_iff]
    constructor
    · intro hfails
      cases hfails with
      | gasPrice h => exact ⟨_, h, rfl⟩
    · rintro ⟨cause, h, rfl⟩
      exact .gasPrice h

/-- A field passes as its check does. -/
theorem passes_iff {field : Checked} : Passes request field ↔ request.check field = .ok () := by
  simp only [Passes, fails_iff]
  cases request.check field with
  | ok _ => simp
  | error error => simp

/-- A field that is the same in another request fails there as well. -/
theorem Fails.of_same {field : Checked} {error : ConnectorError} (h : Fails request field error)
    (hsame : field.Same request other) : Fails other field error := by
  cases h with
  | data set h => exact .data (hsame ▸ set) h
  | sender h =>
    have hsender : request.sender = other.sender := hsame
    rw [hsender] at h ⊢
    exact .sender h
  | recipient set h => exact .recipient (hsame ▸ set) h
  | gasPrice h =>
    have hprice : request.gasPrice = other.gasPrice := hsame
    exact .gasPrice (hprice ▸ h)

/-- To be the same in a field goes both ways. -/
theorem Checked.Same.symm {field : Checked} (h : field.Same request other) :
    field.Same other request := by
  cases field <;> exact Eq.symm h

/-- A field that is the same in another request passes there as well. -/
theorem Passes.of_same {field : Checked} (h : Passes request field)
    (hsame : field.Same request other) : Passes other field :=
  fun error hfails => h error (hfails.of_same hsame.symm)

/-! ## The chain of checks -/

/-- What follows a check counts only if the check is passed. -/
theorem then_eq_error_iff {ε : Type} {first next : Except ε Unit} {cause : ε} :
    (first >>= fun _ => next) = .error cause ↔
      first = .error cause ∨ first = .ok () ∧ next = .error cause := by
  rw [bind_eq_error_iff]
  exact or_congr_right ⟨fun ⟨_, hfirst, hnext⟩ => ⟨hfirst, hnext⟩, fun h => ⟨(), h⟩⟩

/-- A transaction passes the four checks in their order. -/
theorem transaction_map_eq (request : SendRequest) :
    (request.transaction.map fun _ => ()) =
      (request.check .data >>= fun _ => request.check .sender >>= fun _ =>
        request.check .recipient >>= fun _ => request.check .gasPrice) := by
  unfold transaction check
  cases request.data? with
  | error error => rfl
  | ok data =>
    cases request.senderAddress with
    | error error => rfl
    | ok sender =>
      cases request.recipientAddress? with
      | error error => rfl
      | ok recipient =>
        cases request.fee? with
        | error error => rfl
        | ok fee => rfl

/-- **The first fault.** A request has no transaction for the failure of the first field that fails.
-/
theorem transaction_eq_error_iff {error : ConnectorError} :
    request.transaction = .error error ↔ ∃ field, FailsFirst request field error := by
  have hchain : request.transaction = .error error ↔
      Fails request .data error ∨ (Passes request .data ∧
        (Fails request .sender error ∨ (Passes request .sender ∧
          (Fails request .recipient error ∨ (Passes request .recipient ∧
            Fails request .gasPrice error))))) := by
    have hmap : request.transaction = .error error ↔
        (request.transaction.map fun _ => ()) = .error error := map_eq_error_iff.symm
    rw [hmap, transaction_map_eq]
    simp only [then_eq_error_iff, fails_iff, passes_iff]
  rw [hchain]
  -- A field is reached in the chain exactly when the fields with smaller places have passed.
  constructor
  · rintro (h | ⟨hdata, h | ⟨hsender, h | ⟨hrecipient, h⟩⟩⟩)
    · exact ⟨.data, h, fun earlier hlt => absurd hlt (Nat.not_lt_zero _)⟩
    · refine ⟨.sender, h, fun earlier hlt => ?_⟩
      cases earlier with
      | data => exact hdata
      | sender | recipient | gasPrice => simp [Checked.place] at hlt
    · refine ⟨.recipient, h, fun earlier hlt => ?_⟩
      cases earlier with
      | data => exact hdata
      | sender => exact hsender
      | recipient | gasPrice => simp [Checked.place] at hlt
    · refine ⟨.gasPrice, h, fun earlier hlt => ?_⟩
      cases earlier with
      | data => exact hdata
      | sender => exact hsender
      | recipient => exact hrecipient
      | gasPrice => simp [Checked.place] at hlt
  · rintro ⟨field, h, hearlier⟩
    cases field with
    | data => exact Or.inl h
    | sender => exact Or.inr ⟨hearlier .data (by decide), Or.inl h⟩
    | recipient =>
      exact Or.inr ⟨hearlier .data (by decide), Or.inr ⟨hearlier .sender (by decide), Or.inl h⟩⟩
    | gasPrice =>
      exact Or.inr ⟨hearlier .data (by decide), Or.inr ⟨hearlier .sender (by decide),
        Or.inr ⟨hearlier .recipient (by decide), h⟩⟩⟩

/-- **No fault.** A request has the transaction that its fields denote. -/
theorem transaction_eq_ok_iff_decodes {transaction : Transaction} :
    request.transaction = .ok transaction ↔ Decodes request transaction := by
  rw [transaction_eq_ok_iff, data?_eq_ok_iff, senderAddress_eq_ok_iff, recipientAddress?_eq_ok_iff,
    fee?_eq_ok_iff]
  constructor
  · rintro ⟨hdata, hsender, hrecipient, hfee, hgas, hnonce, hvalue⟩
    exact ⟨hdata, hsender, hrecipient, hfee, hgas, hnonce, hvalue⟩
  · rintro ⟨hdata, hsender, hrecipient, hfee, hgas, hnonce, hvalue⟩
    exact ⟨hdata, hsender, hrecipient, hfee, hgas, hnonce, hvalue⟩

/-- The fields of a request denote a transaction when each of them denotes its part. -/
theorem exists_decodes_iff :
    (∃ transaction, Decodes request transaction) ↔
      (request.data = none ∨
        ∃ text bytes, request.data = some text ∧ Hex.decode text = .ok bytes) ∧
      (∃ address, Address.ofText (request.sender.getD "") = .ok address) ∧
      (request.recipient = none ∨
        ∃ text address, request.recipient = some text ∧ Address.ofText text = .ok address) ∧
      ∃ offer, GasPrice.resolve request.gasPrice = .ok offer := by
  rw [← exists_rel_iff, ← exists_rel_iff]
  constructor
  · rintro ⟨transaction, h⟩
    obtain ⟨offer, hoffers, -⟩ := GasPrice.asks_iff.mp h.fee
    exact ⟨⟨_, h.data⟩, ⟨_, h.sender⟩, ⟨_, h.recipient⟩, offer,
      GasPrice.resolve_eq_ok_iff.mpr hoffers⟩
  · rintro ⟨⟨data, hdata⟩, ⟨sender, hsender⟩, ⟨recipient, hrecipient⟩, offer, hoffer⟩
    have hasks := GasPrice.asks_iff.mpr ⟨offer, GasPrice.resolve_eq_ok_iff.mp hoffer, rfl⟩
    exact ⟨⟨sender, recipient, request.gas, request.nonce, request.value, data,
      offer.map GasPrice.fee⟩, hdata, hsender, hrecipient, hasks, rfl, rfl, rfl⟩

/-- A field that is the first to fail is so in every request that is the same up to that field. -/
theorem FailsFirst.of_same {field : Checked} {error : ConnectorError}
    (h : FailsFirst request field error)
    (hsame : ∀ checked : Checked, checked.place ≤ field.place → checked.Same request other) :
    FailsFirst other field error := by
  obtain ⟨hfails, hearlier⟩ := h
  refine ⟨hfails.of_same (hsame field (Nat.le_refl _)), ?_⟩
  intro earlier hlt
  exact (hearlier earlier hlt).of_same (hsame earlier (Nat.le_of_lt hlt))

/-- A sender that is not given fails as the empty text. -/
theorem fails_sender_of_none (h : request.sender = none) :
    Fails request .sender (.invalidSender "" .missingMarker) := by
  have hempty : request.sender.getD "" = "" := by
    rw [h]
    rfl
  rw [← hempty]
  refine .sender ?_
  rw [hempty]
  rfl

/-! ## Preparing a request -/

/-- A request that the node is to sign is prepared as the transaction that its fields denote. -/
theorem prepare_eq_ok_iff_decodes (h : request.preSigned = false) {submission : Submission} :
    request.prepare = .ok submission ↔
      ∃ transaction, submission = .unsigned transaction ∧ Decodes request transaction := by
  rw [prepare_of_not_preSigned h, map_eq_ok_iff]
  simp only [transaction_eq_ok_iff_decodes]
  constructor
  · rintro ⟨transaction, hdecodes, rfl⟩
    exact ⟨transaction, rfl, hdecodes⟩
  · rintro ⟨transaction, rfl, hdecodes⟩
    exact ⟨transaction, hdecodes, rfl⟩

/-- A request that the node is to sign is refused for the first field that fails. -/
theorem prepare_eq_error_iff_failsFirst (h : request.preSigned = false) {error : ConnectorError} :
    request.prepare = .error error ↔ ∃ field, FailsFirst request field error := by
  rw [prepare_of_not_preSigned h, map_eq_error_iff, transaction_eq_error_iff]

/-- **The first fault decides.** A request that the node is to sign is prepared exactly when its
data is missing or denotes bytes, its sender is an address, its recipient is missing or an address,
and its gas price is resolved; the transaction then holds what these denote, and the numbers of the
request. Otherwise the failure is that of the first field in this order that fails, with the field's
own cause and text. A sender that is missing fails as the empty text. Whatever the later fields, the
numbers and the header are, the failure is the same. -/
theorem prepare_first_fault (h : request.preSigned = false) :
    ((∃ submission, request.prepare = .ok submission) ↔
      (request.data = none ∨
        ∃ text bytes, request.data = some text ∧ Hex.decode text = .ok bytes) ∧
      (∃ address, Address.ofText (request.sender.getD "") = .ok address) ∧
      (request.recipient = none ∨
        ∃ text address, request.recipient = some text ∧ Address.ofText text = .ok address) ∧
      ∃ offer, GasPrice.resolve request.gasPrice = .ok offer) ∧
    (∀ submission, request.prepare = .ok submission ↔
      ∃ transaction, submission = .unsigned transaction ∧ Decodes request transaction) ∧
    (∀ error, request.prepare = .error error ↔ ∃ field, FailsFirst request field error) ∧
    (request.sender = none → Fails request .sender (.invalidSender "" .missingMarker)) ∧
    (∀ field error, FailsFirst request field error →
      ∀ other : SendRequest, other.preSigned = false →
        (∀ checked : Checked, checked.place ≤ field.place → checked.Same request other) →
        other.prepare = .error error) := by
  refine ⟨?_, fun _ => prepare_eq_ok_iff_decodes h, fun _ => prepare_eq_error_iff_failsFirst h,
    fails_sender_of_none, ?_⟩
  · rw [← exists_decodes_iff]
    simp only [prepare_eq_ok_iff_decodes h]
    constructor
    · rintro ⟨_, transaction, -, hdecodes⟩
      exact ⟨transaction, hdecodes⟩
    · rintro ⟨transaction, hdecodes⟩
      exact ⟨_, transaction, rfl, hdecodes⟩
  · intro field error hfirst other hother hsame
    exact (prepare_eq_error_iff_failsFirst hother).mpr ⟨field, hfirst.of_same hsame⟩

/-- A request whose recipient is too short and whose gas price is no offer. -/
def twoFaults : SendRequest :=
  { SendRequest.empty with
    sender := some "0x00000000000000000000000000000000000000aA", recipient := some " 0x12"
    gasPrice := some (.bool true) }

/-- The recipient is the first of the two. -/
theorem failsFirst_twoFaults :
    FailsFirst twoFaults .recipient (.invalidRecipient " 0x12" (.wrongLength 20 1)) := by
  refine ⟨.recipient rfl rfl, ?_⟩
  intro earlier hlt
  cases earlier with
  | data => exact passes_iff.mpr rfl
  | sender => exact passes_iff.mpr rfl
  | recipient | gasPrice => simp [Checked.place] at hlt

/-- A request whose price stands inside an object. -/
def nestedPrice : SendRequest :=
  { SendRequest.empty with
    sender := some "0x00000000000000000000000000000000000000aA", nonce := some ⟨7, by decide⟩
    data := some " 0XfE", gasPrice := some (.object [("gasPrice", .string "0x3E8")]) }

/-- The transaction of the request with the nested price. -/
def nestedPriceTransaction : Transaction where
  sender := ⟨List.replicate 19 0 ++ [0xaa], rfl⟩
  recipient := none
  gas := none
  nonce := some ⟨7, by decide⟩
  value := none
  data := some [0xfe]
  fee := some (.legacy ⟨1000, by decide⟩)

/-- The transaction holds what the request with the nested price decodes to. -/
theorem decodes_nestedPrice : Decodes nestedPrice nestedPriceTransaction := by
  have hmost : GasPrice.Unset [("gasPrice", .string "0x3E8")] "maxFeePerGas" := by
    intro value hfound
    cases hfound
  have hprice : GasPrice.Quotes [("gasPrice", .string "0x3E8")] "gasPrice" ⟨1000, by decide⟩ :=
    ⟨_, rfl, Quantity.ofJson_eq_ok_iff.mp rfl⟩
  exact
    { data := .some rfl
      sender := rfl
      recipient := .none
      fee := .nested hmost hprice
      gas_eq := rfl
      nonce_eq := rfl
      value_eq := rfl }

/-- The request with two faults is refused for the recipient, and so it is without the gas price.
The request with the nested price is prepared to its transaction. -/
theorem prepare_first_fault_samples :
    (twoFaults.preSigned = false ∧
      twoFaults.prepare = .error (.invalidRecipient " 0x12" (.wrongLength 20 1)) ∧
      ({ twoFaults with gasPrice := none } : SendRequest).prepare =
        .error (.invalidRecipient " 0x12" (.wrongLength 20 1))) ∧
    (nestedPrice.preSigned = false ∧ Decodes nestedPrice nestedPriceTransaction ∧
      nestedPrice.prepare = .ok (.unsigned nestedPriceTransaction)) := by
  have htwo : twoFaults.preSigned = false := rfl
  have hnested : nestedPrice.preSigned = false := rfl
  obtain ⟨-, -, hfault, -, hlater⟩ := prepare_first_fault htwo
  obtain ⟨-, hprepared, -⟩ := prepare_first_fault hnested
  refine ⟨⟨htwo, (hfault _).mpr ⟨_, failsFirst_twoFaults⟩, ?_⟩, hnested, decodes_nestedPrice, ?_⟩
  · refine hlater _ _ failsFirst_twoFaults _ rfl ?_
    intro checked hle
    cases checked with
    | data | sender | recipient => rfl
    | gasPrice => simp [Checked.place] at hle
  · exact (hprepared _).mpr ⟨_, rfl, decodes_nestedPrice⟩

end TxGateway.SendRequest
