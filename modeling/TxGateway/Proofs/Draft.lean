import TxGateway.Proofs.Json.Strict
import TxGateway.Request
/-!
# What the text of a request states

A draft is a request before its numbers are judged: the texts and values that stand under the names
of its fields. `Draft.WrittenIn` says which draft the members of an object make, each field from its
own member and whatever stands around it; an array states the same as the object with its items
under the names of the fields (`Form`). Reading a request is making its draft and judging it:

* `SendRequest.read_eq_ok_iff` : on the outline of a request, as an object or as an array;
* `SendRequest.parse_eq_ok_iff` : on its text.
-/

namespace TxGateway

open Json Fallible

/-- What a request states, before its numbers are judged. -/
structure Draft where
  header : Option Header
  sender : Option String
  recipient : Option String
  gas : Option Json
  nonce : Option Json
  value : Option Json
  data : Option String
  gasPrice : Option Json
  preSigned : Bool

/-- The draft that the members of an object make. Each field comes from the only member of its name;
a field without member is not set. -/
structure Draft.WrittenIn (members : List Member) (draft : Draft) : Prop where
  named : Named members
  header : Gives members "ffcapi" (Reader.optional Header.read 126) none draft.header
  sender : Gives members "from" (Reader.optional Reader.text 126) none draft.sender
  recipient : Gives members "to" (Reader.optional Reader.text 126) none draft.recipient
  gas : Gives members "gas" (Reader.optional Reader.value 126) none draft.gas
  nonce : Gives members "nonce" (Reader.optional Reader.value 126) none draft.nonce
  value : Gives members "value" (Reader.optional Reader.value 126) none draft.value
  data : Gives members "transactionData" (Reader.optional Reader.text 126) none draft.data
  gasPrice : Gives members "gasPrice" (Reader.optional Reader.value 126) none draft.gasPrice
  preSigned : Gives members "preSigned" (Reader.flag 126) false draft.preSigned

/-- Members make at most one draft. -/
theorem Draft.WrittenIn.unique {members : List Member} {first second : Draft}
    (hfirst : first.WrittenIn members) (hsecond : second.WrittenIn members) : first = second := by
  cases first
  cases second
  rw [Draft.mk.injEq]
  exact ⟨hfirst.header.unique hsecond.header, hfirst.sender.unique hsecond.sender,
    hfirst.recipient.unique hsecond.recipient, hfirst.gas.unique hsecond.gas,
    hfirst.nonce.unique hsecond.nonce, hfirst.value.unique hsecond.value,
    hfirst.data.unique hsecond.data, hfirst.gasPrice.unique hsecond.gasPrice,
    hfirst.preSigned.unique hsecond.preSigned⟩

/-- A draft that is judged: its numbers are the quantities of the request, and the rest stands in
the request as it is. -/
structure Draft.Judged (draft : Draft) (request : SendRequest) : Prop where
  header : request.header = draft.header
  sender : request.sender = draft.sender
  recipient : request.recipient = draft.recipient
  gas : Option.Rel (fun value gas => SendRequest.gasRule value = .ok gas) draft.gas request.gas
  nonce : Option.Rel (fun value nonce => SendRequest.quantityRule value = .ok nonce) draft.nonce
    request.nonce
  value : Option.Rel (fun value amount => SendRequest.quantityRule value = .ok amount) draft.value
    request.value
  data : request.data = draft.data
  gasPrice : request.gasPrice = draft.gasPrice
  preSigned : request.preSigned = draft.preSigned

/-! ## Values that are judged -/

section

variable {α : Type} {members : List Member} {name : String} {depth : Nat}

/-- A value that may be `null` is read and judged when it is read as a value that the rule accepts,
or as nothing. -/
theorem optional_judged_eq_ok_iff {rule : Json → Except Mismatch α} {outline : Outline}
    {content : Option α} :
    Reader.optional (.judged .value rule) depth outline = .ok content ↔
      ∃ value, Reader.optional Reader.value depth outline = .ok value ∧
        Option.Rel (fun value content => rule value = .ok content) value content := by
  by_cases hnull : outline = .null
  · subst hnull
    constructor
    · intro h
      cases h
      exact ⟨none, rfl, .none⟩
    · rintro ⟨value, h, hrel⟩
      cases h
      cases hrel
      rfl
  · rw [Reader.optional_of_ne_null _ depth hnull, Reader.optional_of_ne_null _ depth hnull,
      map_eq_ok_iff]
    constructor
    · rintro ⟨judged, h, rfl⟩
      obtain ⟨value, hvalue, hrule⟩ := bind_eq_ok_iff.mp h
      exact ⟨some value, map_eq_ok_iff.mpr ⟨value, hvalue, rfl⟩,
        .some (mapError_eq_ok_iff.mp hrule)⟩
    · rintro ⟨_, h, hrel⟩
      obtain ⟨value, hvalue, rfl⟩ := map_eq_ok_iff.mp h
      cases hrel with
      | some hrule =>
        exact ⟨_, bind_eq_ok_iff.mpr ⟨value, hvalue, mapError_eq_ok_iff.mpr hrule⟩, rfl⟩

/-- What an object gives once it is judged comes from what it gives unjudged. -/
theorem gives_judged_iff {rule : Json → Except Mismatch α} {content : Option α} :
    Gives members name (Reader.optional (.judged .value rule) depth) none content ↔
      ∃ value, Gives members name (Reader.optional Reader.value depth) none value ∧
        Option.Rel (fun value content => rule value = .ok content) value content := by
  rcases h : valuesOf name members with _ | ⟨outline, _ | ⟨_, _⟩⟩
  · simp only [gives_of_nil h]
    constructor
    · rintro rfl
      exact ⟨none, rfl, .none⟩
    · rintro ⟨_, rfl, hrel⟩
      cases hrel
      rfl
  · simp only [gives_of_singleton h]
    exact optional_judged_eq_ok_iff
  · simp [Gives, h]

end

namespace SendRequest

/-! ## From members to a request -/

variable {members : List Member} {seen : List String} {request : SendRequest} {draft : Draft}

/-- What the members of a request give for each of its fields. -/
structure Given (members : List Member) (request : SendRequest) : Prop where
  header : Gives members "ffcapi" (Reader.optional Header.read 126) none request.header
  sender : Gives members "from" (Reader.optional Reader.text 126) none request.sender
  recipient : Gives members "to" (Reader.optional Reader.text 126) none request.recipient
  gas : Gives members "gas" (Reader.optional (.judged .value gasRule) 126) none request.gas
  nonce : Gives members "nonce" (Reader.optional (.judged .value quantityRule) 126) none
    request.nonce
  value : Gives members "value" (Reader.optional (.judged .value quantityRule) 126) none
    request.value
  data : Gives members "transactionData" (Reader.optional Reader.text 126) none request.data
  gasPrice : Gives members "gasPrice" (Reader.optional Reader.value 126) none request.gasPrice
  preSigned : Gives members "preSigned" (Reader.flag 126) false request.preSigned

/-- Every field of a request may be left out. -/
theorem presence_eq_optional : ∀ field ∈ layout.fields, field.presence = .optional := by
  have hall : layout.fields.map Field.presence = List.replicate 9 Presence.optional := rfl
  intro field hfield
  have hpresence : field.presence ∈ List.replicate 9 Presence.optional :=
    hall ▸ List.mem_map_of_mem hfield
  exact (List.mem_replicate.mp hpresence).2

/-- No field of a request has to be there. -/
theorem presence_ne_required : ∀ field ∈ layout.fields, field.presence ≠ .required := by
  intro field hfield
  rw [presence_eq_optional field hfield]
  decide

/-- The parts of a request. -/
def parts : List (Layout.Part layout) := [
  ⟨"ffcapi", header, rfl, fun _ _ => rfl⟩,
  ⟨"from", sender, rfl, fun _ _ => rfl⟩,
  ⟨"to", recipient, rfl, fun _ _ => rfl⟩,
  ⟨"gas", gas, rfl, fun _ _ => rfl⟩,
  ⟨"nonce", nonce, rfl, fun _ _ => rfl⟩,
  ⟨"value", value, rfl, fun _ _ => rfl⟩,
  ⟨"transactionData", data, rfl, fun _ _ => rfl⟩,
  ⟨"gasPrice", gasPrice, rfl, fun _ _ => rfl⟩,
  ⟨"preSigned", preSigned, rfl, fun _ _ => rfl⟩]

/-- A request splits into its parts. -/
theorem splits_parts : Layout.Splits layout parts where
  fields_eq := rfl
  keeps := by simp [parts]
  ext := by
    rintro ⟨⟩ ⟨⟩ h
    simpa [parts] using h

/-- What members give for each field of a request is what they give for each part of it. -/
theorem given_iff_parts :
    Given members request ↔ ∀ part ∈ parts, part.GivenBy 126 members request := by
  simp only [parts, List.forall_mem_cons, List.not_mem_nil, false_imp_iff, implies_true, and_true]
  constructor
  · rintro ⟨header, sender, recipient, gas, nonce, value, data, gasPrice, preSigned⟩
    exact ⟨header, sender, recipient, gas, nonce, value, data, gasPrice, preSigned⟩
  · rintro ⟨header, sender, recipient, gas, nonce, value, data, gasPrice, preSigned⟩
    exact ⟨header, sender, recipient, gas, nonce, value, data, gasPrice, preSigned⟩

/-- An object is read as the request that its members give, if their names can be read. -/
theorem read_object_eq_ok_iff (hskip : ∀ member ∈ members, member.2.skip = .ok ()) :
    read maxDepth (.object members .closed) = .ok request ↔
      Named members ∧ Given members request := by
  rw [given_iff_parts]
  exact splits_parts.readObject_eq_ok_iff presence_ne_required hskip

/-- What members give for a request is what they give for its draft, judged. -/
theorem given_iff (hnamed : Named members) :
    Given members request ↔ ∃ draft : Draft, draft.WrittenIn members ∧ draft.Judged request := by
  constructor
  · intro h
    obtain ⟨gas, hgas, hgasRule⟩ := gives_judged_iff.mp h.gas
    obtain ⟨nonce, hnonce, hnonceRule⟩ := gives_judged_iff.mp h.nonce
    obtain ⟨value, hvalue, hvalueRule⟩ := gives_judged_iff.mp h.value
    refine ⟨⟨request.header, request.sender, request.recipient, gas, nonce, value, request.data,
      request.gasPrice, request.preSigned⟩, ?_, ?_⟩
    · exact ⟨hnamed, h.header, h.sender, h.recipient, hgas, hnonce, hvalue, h.data, h.gasPrice,
        h.preSigned⟩
    · exact ⟨rfl, rfl, rfl, hgasRule, hnonceRule, hvalueRule, rfl, rfl, rfl⟩
  · rintro ⟨draft, hdraft, hjudged⟩
    exact
      { header := hjudged.header ▸ hdraft.header
        sender := hjudged.sender ▸ hdraft.sender
        recipient := hjudged.recipient ▸ hdraft.recipient
        gas := gives_judged_iff.mpr ⟨draft.gas, hdraft.gas, hjudged.gas⟩
        nonce := gives_judged_iff.mpr ⟨draft.nonce, hdraft.nonce, hjudged.nonce⟩
        value := gives_judged_iff.mpr ⟨draft.value, hdraft.value, hjudged.value⟩
        data := hjudged.data ▸ hdraft.data
        gasPrice := hjudged.gasPrice ▸ hdraft.gasPrice
        preSigned := hjudged.preSigned ▸ hdraft.preSigned }

/-! ## Whole requests -/

/-- An array is read as the object with its items under the names of the fields. -/
theorem read_array_eq {blank : Bool} {items : List Outline}
    (hfits : items.length ≤ layout.fields.length) :
    read maxDepth (.array blank items .closed) =
      read maxDepth (.object (Layout.placed layout.fields items) .closed) := by
  refine Layout.read_array_eq_read_object hfits ?_ presence_eq_optional (by decide) blank
  intro field hfield
  simp only [layout, List.mem_cons, List.not_mem_nil, or_false] at hfield
  rcases hfield with rfl | rfl | rfl | rfl | rfl | rfl | rfl | rfl | rfl <;> rfl

/-- **Reading a request.** A well-formed value is read as a request when its members make a draft
that is judged to be the request. -/
theorem read_eq_ok_iff {root : Outline} (hroot : root.skip = .ok ())
    (hform : Layout.Form layout root members) :
    read maxDepth root = .ok request ↔
      ∃ draft : Draft, draft.WrittenIn members ∧ draft.Judged request := by
  -- Both forms come down to an object of well-formed members.
  have hdraft : ∀ {members}, (∀ member ∈ members, member.2.skip = .ok ()) →
      (read maxDepth (.object members .closed) = .ok request ↔
        ∃ draft : Draft, draft.WrittenIn members ∧ draft.Judged request) := by
    intro members hskip
    rw [read_object_eq_ok_iff hskip]
    constructor
    · rintro ⟨hnamed, hgiven⟩
      exact (given_iff hnamed).mp hgiven
    · rintro ⟨draft, hwritten, hjudged⟩
      exact ⟨hwritten.named, (given_iff hwritten.named).mpr ⟨draft, hwritten, hjudged⟩⟩
  cases hform with
  | object =>
    obtain ⟨⟨⟩, hmembers, -⟩ := bind_eq_ok_iff.mp hroot
    exact hdraft (skip_of_mem_of_skipMembers hmembers)
  | array blank hfits =>
    obtain ⟨⟨⟩, hitems, -⟩ := bind_eq_ok_iff.mp hroot
    rw [read_array_eq hfits]
    exact hdraft (Layout.skip_of_mem_placed hitems)

/-- Each field of a request is read strictly. -/
theorem strict_fields : ∀ field ∈ layout.fields, field.read.Strict := by
  have hheader : Header.read.Strict := by
    refine Layout.strict ?_
    intro field hfield
    simp only [Header.layout, List.mem_cons, List.not_mem_nil, or_false] at hfield
    rcases hfield with rfl | rfl | rfl
    all_goals exact Field.strict_of _ _ _ Reader.strict_text
  have htext := Reader.strict_text.optional
  have hquantity := (Reader.strict_value.judged quantityRule).optional
  intro field hfield
  simp only [layout, List.mem_cons, List.not_mem_nil, or_false] at hfield
  rcases hfield with rfl | rfl | rfl | rfl | rfl | rfl | rfl | rfl | rfl
  · exact Field.strict_of _ _ _ hheader.optional
  · exact Field.strict_of _ _ _ htext
  · exact Field.strict_of _ _ _ htext
  · exact Field.strict_of _ _ _ (Reader.strict_value.judged gasRule).optional
  · exact Field.strict_of _ _ _ hquantity
  · exact Field.strict_of _ _ _ hquantity
  · exact Field.strict_of _ _ _ htext
  · exact Field.strict_of _ _ _ Reader.strict_value.optional
  · exact Field.strict_of _ _ _ Reader.strict_flag

end SendRequest

/-- A text states a draft: it is well formed, what it spells has the form of a request, and the
members make the draft. -/
def Draft.StatedBy (draft : Draft) (text : String) : Prop :=
  ∃ root members, Outlines text root ∧ Layout.Form SendRequest.layout root members ∧
    draft.WrittenIn members

/-- **Parsing a request.** A text is parsed as a request when it states a draft that is judged to be
the request. -/
theorem SendRequest.parse_eq_ok_iff {text : String} {request : SendRequest} :
    SendRequest.parse text = .ok request ↔
      ∃ draft : Draft, draft.StatedBy text ∧ draft.Judged request := by
  have hstrict : SendRequest.read.Strict := Layout.strict strict_fields
  unfold SendRequest.parse
  rw [hstrict.parse_eq_ok_iff]
  constructor
  · rintro ⟨root, hroot, hread⟩
    obtain ⟨hskip, members, hform⟩ := Layout.skip_of_read strict_fields hread
    obtain ⟨draft, hwritten, hjudged⟩ := (read_eq_ok_iff hskip hform).mp hread
    exact ⟨draft, ⟨root, members, hroot, hform, hwritten⟩, hjudged⟩
  · rintro ⟨draft, ⟨root, members, hroot, hform, hwritten⟩, hjudged⟩
    exact ⟨root, hroot, (read_eq_ok_iff hroot.skip_eq hform).mpr ⟨draft, hwritten, hjudged⟩⟩

/-- A text states at most one draft. -/
theorem Draft.StatedBy.unique {first second : Draft} {text : String} (hfirst : first.StatedBy text)
    (hsecond : second.StatedBy text) : first = second := by
  obtain ⟨root, members, hroot, hform, hwritten⟩ := hfirst
  obtain ⟨other, others, hother, hform', hwritten'⟩ := hsecond
  cases hroot.unique hother
  cases hform.unique hform'
  exact hwritten.unique hwritten'

/-- A text that states a draft is parsed as the request that the draft is judged to be. -/
theorem Draft.StatedBy.parse_eq_ok_iff {draft : Draft} {text : String} (h : draft.StatedBy text)
    {request : SendRequest} : SendRequest.parse text = .ok request ↔ draft.Judged request := by
  rw [SendRequest.parse_eq_ok_iff]
  constructor
  · rintro ⟨other, hother, hjudged⟩
    rwa [h.unique hother]
  · intro hjudged
    exact ⟨draft, h, hjudged⟩

end TxGateway
