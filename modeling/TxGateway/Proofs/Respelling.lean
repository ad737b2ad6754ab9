import TxGateway.Proofs.Draft
import TxGateway.Proofs.PreSigned
import TxGateway.Proofs.PriceSpelling
/-!
# Spellings of one request

The same transaction can be asked for in many texts: letter case and white space of hex texts are
free, a number may be a JSON number or a string in either base, with leading zeros or without, a
price may be given alone or inside an object, and what is not set may be `null` or left out.
`Respelled` says when two texts differ in nothing else, each field by itself, whatever headers and
further members they have. The main results:

* `SendRequest.Alike.prepare_eq_ok` : requests that ask alike are prepared alike, if one is;
* `respelled_of_rewritten` : texts whose fields are written in other ways are spellings of one
  request, if one of them is accepted;
* `Respelled.parse_prepare` : what one spelling is prepared to, every other is;
* `Connector.submit_eq_of_respelled` : what is accepted in one spelling is accepted in every other,
  leads to the same call, and ends in the same way.
-/

namespace TxGateway

open Json Fallible

namespace SendRequest

variable {request : SendRequest}

/-- A value is accepted as a quantity when it spells its number. -/
theorem quantityRule_eq_ok_iff {value : Json} {quantity : Quantity} :
    quantityRule value = .ok quantity ↔ Quantity.Spelled value quantity.toNat := by
  rw [quantityRule, mapError_eq_ok_iff, Quantity.ofJson_eq_ok_iff]

/-- A value is accepted as a gas limit when it spells its number. -/
theorem gasRule_eq_ok_iff {value : Json} {gas : GasLimit} :
    gasRule value = .ok gas ↔ Quantity.Spelled value gas.toNat := by
  constructor
  · intro h
    obtain ⟨quantity, hquantity, h⟩ := bind_eq_ok_iff.mp h
    cases hfits : GasLimit.ofQuantity? quantity with
    | none =>
      rw [hfits] at h
      cases h
    | some found =>
      rw [hfits] at h
      cases h
      rw [GasLimit.toNat_of_ofQuantity? hfits]
      exact quantityRule_eq_ok_iff.mp hquantity
  · intro h
    have hquantity : quantityRule value = .ok gas.toQuantity := quantityRule_eq_ok_iff.mpr h
    refine bind_eq_ok_iff.mpr ⟨_, hquantity, ?_⟩
    rw [GasLimit.ofQuantity?_toQuantity]
    rfl

/-! ## Requests -/

/-- Two requests that ask for the same transaction: their texts differ only in letter case and white
space, their numbers are the same, and their gas prices ask for the same fee. The gas price of a
signed request does not count. -/
structure Alike (first second : SendRequest) : Prop where
  sender : Option.Rel Text.Same first.sender second.sender
  recipient : Option.Rel Text.Same first.recipient second.recipient
  gas : first.gas = second.gas
  nonce : first.nonce = second.nonce
  value : first.value = second.value
  data : Option.Rel Text.Same first.data second.data
  gasPrice : first.preSigned = true ∨
    ∃ fee, GasPrice.Asks first.gasPrice fee ∧ GasPrice.Asks second.gasPrice fee
  preSigned : first.preSigned = second.preSigned

/-- Optional texts that differ only in letter case and white space do so with a default, too. -/
theorem same_getD {first second : Option String} (h : Option.Rel Text.Same first second) :
    Text.Same (first.getD "") (second.getD "") := by
  cases h with
  | none => exact rfl
  | some h => exact h

/-- **Preparing a request.** What one of two requests that ask alike is prepared to, the other is
prepared to as well. -/
theorem Alike.prepare_eq_ok {first second : SendRequest} (h : first.Alike second)
    {submission : Submission} (hfirst : first.prepare = .ok submission) :
    second.prepare = .ok submission := by
  cases submission with
  | raw payload =>
    -- A signed request is prepared from its data alone.
    obtain ⟨hsigned, hdecode⟩ := prepare_eq_raw_iff.mp hfirst
    have hother := Hex.decode_of_same (same_getD h.data) hdecode
    exact prepare_eq_raw_iff.mpr ⟨h.preSigned ▸ hsigned, hother⟩
  | unsigned transaction =>
    obtain ⟨hunsigned, htransaction⟩ := prepare_eq_unsigned_iff.mp hfirst
    obtain ⟨hdata, hsender, hrecipient, hfee, hgas, hnonce, hvalue⟩ :=
      transaction_eq_ok_iff.mp htransaction
    refine prepare_eq_unsigned_iff.mpr ⟨h.preSigned ▸ hunsigned, transaction_eq_ok_iff.mpr ?_⟩
    refine ⟨?_, ?_, ?_, ?_, hgas.trans h.gas, hnonce.trans h.nonce, hvalue.trans h.value⟩
    · rw [data?_eq_ok_iff] at hdata ⊢
      exact rel_join h.data hdata fun _ _ _ hsame => Hex.decode_of_same hsame
    · rw [senderAddress_eq_ok_iff] at hsender ⊢
      exact Address.ofText_of_same (same_getD h.sender) hsender
    · rw [recipientAddress?_eq_ok_iff] at hrecipient ⊢
      exact rel_join h.recipient hrecipient fun _ _ _ hsame => Address.ofText_of_same hsame
    · obtain hsigned | ⟨fee, hasks, hother⟩ := h.gasPrice
      · rw [hunsigned] at hsigned
        cases hsigned
      · rw [← fee?_eq_ok_iff] at hasks hother
        rw [hasks] at hfee
        rw [hother, hfee]

end SendRequest

/-! ## Drafts and texts -/

namespace Draft

/-- Two drafts that ask for the same transaction. Headers do not count. -/
structure Alike (first second : Draft) : Prop where
  sender : Option.Rel Text.Same first.sender second.sender
  recipient : Option.Rel Text.Same first.recipient second.recipient
  gas : Option.Rel Quantity.Same first.gas second.gas
  nonce : Option.Rel Quantity.Same first.nonce second.nonce
  value : Option.Rel Quantity.Same first.value second.value
  data : Option.Rel Text.Same first.data second.data
  gasPrice : first.preSigned = true ∨
    ∃ fee, GasPrice.Asks first.gasPrice fee ∧ GasPrice.Asks second.gasPrice fee
  preSigned : first.preSigned = second.preSigned

variable {first second : Draft}

/-- The order of two drafts does not count. -/
theorem Alike.symm (h : first.Alike second) : second.Alike first where
  sender := rel_flip h.sender fun _ _ => Eq.symm
  recipient := rel_flip h.recipient fun _ _ => Eq.symm
  gas := rel_flip h.gas fun _ _ => Quantity.Same.symm
  nonce := rel_flip h.nonce fun _ _ => Quantity.Same.symm
  value := rel_flip h.value fun _ _ => Quantity.Same.symm
  data := rel_flip h.data fun _ _ => Eq.symm
  gasPrice := by
    rw [← h.preSigned]
    refine h.gasPrice.imp_right ?_
    rintro ⟨fee, hfirst, hsecond⟩
    exact ⟨fee, hsecond, hfirst⟩
  preSigned := h.preSigned.symm

/-- **Judging a draft.** Where one of two drafts that ask alike is judged to be a request, the other
is judged to be a request that asks alike. -/
theorem Alike.judged (h : first.Alike second) {request : SendRequest}
    (hjudged : first.Judged request) : ∃ other, second.Judged other ∧ request.Alike other := by
  have hgas := Quantity.rel_of_same h.gas hjudged.gas SendRequest.gasRule_eq_ok_iff
  have hnonce := Quantity.rel_of_same h.nonce hjudged.nonce SendRequest.quantityRule_eq_ok_iff
  have hvalue := Quantity.rel_of_same h.value hjudged.value SendRequest.quantityRule_eq_ok_iff
  refine ⟨⟨second.header, second.sender, second.recipient, request.gas, request.nonce,
    request.value, second.data, second.gasPrice, second.preSigned⟩, ?_, ?_⟩
  · exact ⟨rfl, rfl, rfl, hgas, hnonce, hvalue, rfl, rfl, rfl⟩
  · refine ⟨?_, ?_, rfl, rfl, rfl, ?_, ?_, ?_⟩
    · rw [hjudged.sender]
      exact h.sender
    · rw [hjudged.recipient]
      exact h.recipient
    · rw [hjudged.data]
      exact h.data
    · rw [hjudged.preSigned, hjudged.gasPrice]
      exact h.gasPrice
    · rw [hjudged.preSigned]
      exact h.preSigned

end Draft

/-- Two texts of requests that differ only in spelling, in their headers, and in members that are no
fields of requests. -/
def Respelled (first second : String) : Prop :=
  ∃ firstDraft secondDraft : Draft, firstDraft.StatedBy first ∧ secondDraft.StatedBy second ∧
    firstDraft.Alike secondDraft

/-- A text that is parsed as a request that can be prepared. -/
def Accepted (text : String) : Prop :=
  ∃ request submission, SendRequest.parse text = .ok request ∧ request.prepare = .ok submission

/-- Two drafts that differ only in how their fields are written: texts in letter case and white
space, quantities and the gas price in the ways in which these are written. Headers do not count. -/
structure Draft.Rewritten (first second : Draft) : Prop where
  sender : Option.Rel Text.Same first.sender second.sender
  recipient : Option.Rel Text.Same first.recipient second.recipient
  gas : Option.Rel Quantity.Rewritten first.gas second.gas
  nonce : Option.Rel Quantity.Rewritten first.nonce second.nonce
  value : Option.Rel Quantity.Rewritten first.value second.value
  data : Option.Rel Text.Same first.data second.data
  gasPrice : GasPrice.Rewritten first.gasPrice second.gasPrice
  preSigned : first.preSigned = second.preSigned

section

variable {first second : String} {firstDraft secondDraft : Draft}

/-- The order of two drafts does not count. -/
theorem Draft.Rewritten.symm (h : firstDraft.Rewritten secondDraft) :
    secondDraft.Rewritten firstDraft where
  sender := rel_flip h.sender fun _ _ => Eq.symm
  recipient := rel_flip h.recipient fun _ _ => Eq.symm
  gas := rel_flip h.gas fun _ _ => Quantity.Rewritten.symm
  nonce := rel_flip h.nonce fun _ _ => Quantity.Rewritten.symm
  value := rel_flip h.value fun _ _ => Quantity.Rewritten.symm
  data := rel_flip h.data fun _ _ => Eq.symm
  gasPrice := h.gasPrice.symm
  preSigned := h.preSigned.symm

/-- Drafts that differ only in how their fields are written ask alike, if one of them is judged to be
a request that can be prepared. -/
theorem Draft.Rewritten.alike (h : firstDraft.Rewritten secondDraft) {request : SendRequest}
    {submission : Submission} (hjudged : firstDraft.Judged request)
    (hprepare : request.prepare = .ok submission) : firstDraft.Alike secondDraft := by
  have hgas := Quantity.rel_same_of_rewritten h.gas hjudged.gas SendRequest.gasRule_eq_ok_iff.mp
  have hnonce := Quantity.rel_same_of_rewritten h.nonce hjudged.nonce
    SendRequest.quantityRule_eq_ok_iff.mp
  have hvalue := Quantity.rel_same_of_rewritten h.value hjudged.value
    SendRequest.quantityRule_eq_ok_iff.mp
  refine ⟨h.sender, h.recipient, hgas, hnonce, hvalue, h.data, ?_, h.preSigned⟩
  -- The gas price of a signed request does not count; that of any other asks for a fee.
  cases submission with
  | raw payload =>
    exact Or.inl (hjudged.preSigned.symm.trans (SendRequest.prepare_eq_raw_iff.mp hprepare).1)
  | unsigned transaction =>
    obtain ⟨-, htransaction⟩ := SendRequest.prepare_eq_unsigned_iff.mp hprepare
    obtain ⟨-, -, -, hfee, -⟩ := SendRequest.transaction_eq_ok_iff.mp htransaction
    rw [SendRequest.fee?_eq_ok_iff, hjudged.gasPrice] at hfee
    exact Or.inr ⟨transaction.fee, hfee, h.gasPrice.asks_iff.mp hfee⟩

/-- **Other ways to write.** Texts whose fields differ only in how they are written are spellings of
one request, if one of them is accepted. -/
theorem respelled_of_rewritten (hfirst : firstDraft.StatedBy first)
    (hsecond : secondDraft.StatedBy second) (h : firstDraft.Rewritten secondDraft)
    (haccepted : Accepted first ∨ Accepted second) : Respelled first second := by
  refine ⟨firstDraft, secondDraft, hfirst, hsecond, ?_⟩
  obtain ⟨request, submission, hparse, hprepare⟩ | ⟨request, submission, hparse, hprepare⟩ :=
    haccepted
  · exact h.alike (hfirst.parse_eq_ok_iff.mp hparse) hprepare
  · exact (h.symm.alike (hsecond.parse_eq_ok_iff.mp hparse) hprepare).symm

end

namespace Respelled

variable {first second : String}

/-- The order of two spellings does not count. -/
theorem symm (h : Respelled first second) : Respelled second first := by
  obtain ⟨firstDraft, secondDraft, hfirst, hsecond, halike⟩ := h
  exact ⟨secondDraft, firstDraft, hsecond, hfirst, halike.symm⟩

/-- **Other spellings.** What a text is prepared to, every other spelling of it is prepared to. -/
theorem parse_prepare (h : Respelled first second) {request : SendRequest} {submission : Submission}
    (hparse : SendRequest.parse first = .ok request) (hprepare : request.prepare = .ok submission) :
    ∃ other, SendRequest.parse second = .ok other ∧ other.prepare = .ok submission := by
  obtain ⟨firstDraft, secondDraft, hfirst, hsecond, halike⟩ := h
  obtain ⟨other, hother, hrequests⟩ := halike.judged (hfirst.parse_eq_ok_iff.mp hparse)
  exact ⟨other, hsecond.parse_eq_ok_iff.mpr hother, hrequests.prepare_eq_ok hprepare⟩

end Respelled

namespace Connector

/-- **Spelling does not count.** Of two texts that differ only in spelling, in their headers and in
members that are no fields, the one is accepted if the other is. Both are prepared to the same
submission, lead to its one call, and end in the same way, whatever the node does. -/
theorem submit_eq_of_respelled {first second : String} (hrespelled : Respelled first second)
    (haccepted : Accepted first ∨ Accepted second) :
    ∃ firstRequest secondRequest submission,
      (SendRequest.parse first = .ok firstRequest ∧ firstRequest.prepare = .ok submission) ∧
      (SendRequest.parse second = .ok secondRequest ∧ secondRequest.prepare = .ok submission) ∧
      ∀ (connector : Connector) (node : Node.Behaviour),
        (connector.submit node firstRequest).calls = [submission.call] ∧
          connector.submit node secondRequest = connector.submit node firstRequest := by
  have hboth : ∃ firstRequest secondRequest submission,
      (SendRequest.parse first = .ok firstRequest ∧ firstRequest.prepare = .ok submission) ∧
        (SendRequest.parse second = .ok secondRequest ∧
          secondRequest.prepare = .ok submission) := by
    obtain ⟨request, submission, hparse, hprepare⟩ | ⟨request, submission, hparse, hprepare⟩ :=
      haccepted
    · obtain ⟨other, hother⟩ := hrespelled.parse_prepare hparse hprepare
      exact ⟨request, other, submission, ⟨hparse, hprepare⟩, hother⟩
    · obtain ⟨other, hother⟩ := hrespelled.symm.parse_prepare hparse hprepare
      exact ⟨other, request, submission, hother, ⟨hparse, hprepare⟩⟩
  obtain ⟨firstRequest, secondRequest, submission, hfirst, hsecond⟩ := hboth
  refine ⟨firstRequest, secondRequest, submission, hfirst, hsecond, ?_⟩
  intro connector node
  have hcongr := submit_congr_of_prepare (hsecond.2.trans hfirst.2.symm) connector node
  exact ⟨calls_submit_of_ok connector node hfirst.2, hcongr⟩

end Connector

/-- A request for a transfer of nothing, in plain spellings. -/
def plainSample : Json :=
  .object [("from", .string "0xabababababababababababababababababababab"), ("gas", .number "21000"),
    ("gasPrice", .number "1000")]

/-- The same request in other spellings, with a header and a member that is no field. -/
def respelledSample : Json :=
  .object [("ffcapi", .object [("id", .string "42")]), ("memo", .array []), ("to", .null),
    ("gasPrice", .object [("gasPrice", .string "0x3E8")]), ("gas", .string " 0X005208"),
    ("from", .string " 0XABabABabABabABabABabABabABabABabABabABab\n")]

/-- What the first spelling states. -/
def plainDraft : Draft where
  header := none
  sender := some "0xabababababababababababababababababababab"
  recipient := none
  gas := some (.number "21000")
  nonce := none
  value := none
  data := none
  gasPrice := some (.number "1000")
  preSigned := false

/-- What the second spelling states. -/
def respelledDraft : Draft where
  header := some ⟨"", "42", ""⟩
  sender := some " 0XABabABabABabABabABabABabABabABabABabABab\n"
  recipient := none
  gas := some (.string " 0X005208")
  nonce := none
  value := none
  data := none
  gasPrice := some (.object [("gasPrice", .string "0x3E8")])
  preSigned := false

/-- The two spellings of the sample differ only in how their fields are written. -/
theorem rewritten_respelledDraft : plainDraft.Rewritten respelledDraft := by
  have hsender : Text.Same "0xabababababababababababababababababababab"
      " 0XABabABabABabABabABabABabABabABabABabABab\n" := by
    unfold Text.Same
    decide +kernel
  have hgas : Quantity.Rewritten (.number "21000") (.string " 0X005208") := by
    have hliteral : Digits.decimalText 21000 = "21000" := by decide +kernel
    have hcase : Text.Same
        (String.ofList ('0' :: 'x' :: (List.replicate 2 '0' ++ Digits.hex 21000))) " 0X005208" := by
      unfold Text.Same
      decide +kernel
    exact hliteral ▸ (Quantity.Rewritten.hex 21000 2).trans (.text hcase)
  have hnumber : Quantity.Rewritten (.number "1000") (.string "0x3E8") := by
    have hliteral : Digits.decimalText 1000 = "1000" := by decide +kernel
    have hcase : Text.Same
        (String.ofList ('0' :: 'x' :: (List.replicate 0 '0' ++ Digits.hex 1000))) "0x3E8" := by
      unfold Text.Same
      decide +kernel
    exact hliteral ▸ (Quantity.Rewritten.hex 1000 0).trans (.text hcase)
  have hprice : GasPrice.Rewritten (some (.number "1000"))
      (some (.object [("gasPrice", .string "0x3E8")])) :=
    (GasPrice.Rewritten.flat hnumber).trans (.nested (Or.inr ⟨_, rfl⟩))
  exact ⟨.some hsender, .none, .some hgas, .none, .none, .none, hprice, rfl⟩

/-- The sample is accepted in both spellings, and leads to the same calls. -/
theorem Connector.submit_eq_of_respelled_sample :
    Respelled plainSample.compact respelledSample.compact ∧ Accepted plainSample.compact ∧
    ∃ firstRequest secondRequest submission,
      (SendRequest.parse plainSample.compact = .ok firstRequest ∧
        firstRequest.prepare = .ok submission) ∧
      (SendRequest.parse respelledSample.compact = .ok secondRequest ∧
        secondRequest.prepare = .ok submission) ∧
      ∀ (connector : Connector) (node : Node.Behaviour),
        (connector.submit node firstRequest).calls = [submission.call] ∧
          connector.submit node secondRequest = connector.submit node firstRequest := by
  have hlegible : plainSample.Legible := ⟨trivial, rfl, rfl, trivial⟩
  have hother : respelledSample.Legible :=
    ⟨⟨trivial, trivial⟩, trivial, trivial, ⟨trivial, trivial⟩, trivial, trivial, trivial⟩
  have hplain : SendRequest.parse plainSample.compact = .ok
      { SendRequest.empty with
        sender := some "0xabababababababababababababababababababab"
        gas := some ⟨21000, by decide⟩
        gasPrice := some (.number "1000") } := by
    rw [SendRequest.parse, SendRequest.read.parse_compact hlegible]
    rfl
  have hfirst : plainDraft.StatedBy plainSample.compact := by
    refine ⟨_, _, (isText_compact hlegible).outlines, .object _, ?_⟩
    exact ⟨named_outlineMembers _, rfl, rfl, rfl, rfl, rfl, rfl, rfl, rfl, rfl⟩
  have hsecond : respelledDraft.StatedBy respelledSample.compact := by
    refine ⟨_, _, (isText_compact hother).outlines, .object _, ?_⟩
    exact ⟨named_outlineMembers _, rfl, rfl, rfl, rfl, rfl, rfl, rfl, rfl, rfl⟩
  have haccepted : Accepted plainSample.compact := ⟨_, _, hplain, rfl⟩
  have hsame : Respelled plainSample.compact respelledSample.compact :=
    respelled_of_rewritten hfirst hsecond rewritten_respelledDraft (Or.inl haccepted)
  exact ⟨hsame, haccepted, Connector.submit_eq_of_respelled hsame (Or.inl haccepted)⟩

end TxGateway
