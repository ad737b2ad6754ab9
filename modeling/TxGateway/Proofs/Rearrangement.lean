import TxGateway.Proofs.Draft
import TxGateway.Proofs.Json.MemberOrder
/-!
# Rearranged requests

What does not matter in the text of a request: the order of its members and of those of its header,
members with other names, and whether a field that is not set has the value `null` or no member.
`SendRequest.Rearranged` relates two objects that differ in nothing else.

* `Header.read_shuffled` : a header is read the same in any order of its members;
* `SendRequest.Rearranged.accepted_iff` : an object is read as a request when any rearrangement is;
* `SendRequest.rearranged_parse` : so is its text, and a field that is stated twice is never
  accepted.
-/

namespace TxGateway

open Json Fallible

/-! ## Headers -/

namespace Header

/-- The parts of a header. -/
def parts : List (Layout.Part layout) := [
  ⟨"version", version, rfl, fun _ _ => rfl⟩,
  ⟨"id", id, rfl, fun _ _ => rfl⟩,
  ⟨"type", kind, rfl, fun _ _ => rfl⟩]

/-- A header splits into its parts. -/
theorem splits_parts : Layout.Splits layout parts where
  fields_eq := rfl
  keeps := by simp [parts]
  ext := by
    rintro ⟨⟩ ⟨⟩ h
    simpa [parts] using h

/-- No field of a header has to be there. -/
theorem presence_ne_required : ∀ field ∈ layout.fields, field.presence ≠ .required := by
  intro field hfield
  simp only [layout, List.mem_cons, List.not_mem_nil, or_false] at hfield
  rcases hfield with rfl | rfl | rfl <;> decide

/-- A shuffle of a header that is read is read as the same header. -/
theorem read_shuffled {members others : List Member} {header : Header}
    (h : layout.Shuffled members others) (hmembers : ∀ member ∈ members, SpelledMember member)
    (hread : read 126 (.object members .closed) = .ok header) :
    read 126 (.object others .closed) = .ok header :=
  splits_parts.readObject_shuffled presence_ne_required h hmembers hread

end Header

/-! ## Requests -/

namespace SendRequest

variable {members others : List Member} {request : SendRequest}

example : layout.names = ["ffcapi", "from", "to", "gas", "nonce", "value", "transactionData",
    "gasPrice", "preSigned"] := rfl

/-- Two objects that differ in the order of their members, in members that are no fields of a
request, in explicit `null`s for fields that are not set, and in the same way in their headers. -/
inductive Rearranged : List Member → List Member → Prop
  | shuffled {members others : List Member} (shuffle : layout.Shuffled members others) :
      Rearranged members others
  | null {before after : List Member} {name : Spelling} {text : String} (valid : name.WellFormed)
      (decodes : name.decode = .ok text) (known : text ∈ layout.names)
      (nullable : text ≠ "preSigned") (unset : valuesOf text (before ++ after) = []) :
      Rearranged (before ++ after) (before ++ (name, .null) :: after)
  | header {before after : List Member} {name : Spelling} {members others : List Member}
      (decodes : name.decode = .ok "ffcapi") (shuffle : Header.layout.Shuffled members others) :
      Rearranged (before ++ (name, .object members .closed) :: after)
        (before ++ (name, .object others .closed) :: after)
  | symm {members others : List Member} (rearranged : Rearranged members others) :
      Rearranged others members
  | trans {members between others : List Member} (first : Rearranged members between)
      (second : Rearranged between others) : Rearranged members others

/-- The members of an object that some text spells, and that is read as a request. -/
structure Accepted (members : List Member) (request : SendRequest) : Prop where
  spelled : ∀ member ∈ members, SpelledMember member
  named : Named members
  given : Given members request

/-- An object that a text spells is read as the requests that accept its members. -/
theorem read_object_eq_ok_iff_accepted (h : ∀ member ∈ members, SpelledMember member) :
    read maxDepth (.object members .closed) = .ok request ↔ Accepted members request := by
  rw [read_object_eq_ok_iff fun member hmember => (h member hmember).skip_eq]
  constructor
  · rintro ⟨hnamed, hgiven⟩
    exact ⟨h, hnamed, hgiven⟩
  · rintro ⟨-, hnamed, hgiven⟩
    exact ⟨hnamed, hgiven⟩

/-- A shuffle of members that are accepted is accepted. -/
theorem Accepted.shuffled (h : Accepted members request) (hshuffle : layout.Shuffled members others) :
    Accepted others request := by
  refine ⟨hshuffle.spelledMember h.spelled, hshuffle.named h.named, given_iff_parts.mpr ?_⟩
  intro part hpart
  exact (given_iff_parts.mp h.given part hpart).shuffled hshuffle

/-- All fields but the last read `null` as what they hold when they are not set. -/
theorem read_null_of_mem_parts {part : Layout.Part layout} (h : part ∈ parts) :
    part.name = "preSigned" ∨ part.read 126 .null = .ok (part.get layout.blank) := by
  simp only [parts, List.mem_cons, List.not_mem_nil, or_false] at h
  rcases h with rfl | rfl | rfl | rfl | rfl | rfl | rfl | rfl | rfl
  all_goals first
    | exact Or.inl rfl
    | exact Or.inr rfl

/-- An explicit `null` for a field that is not set gives the same request. -/
theorem given_insert_null {before after : List Member} {name : Spelling} {text : String}
    (hdecode : name.decode = .ok text) (hnullable : text ≠ "preSigned")
    (hunset : valuesOf text (before ++ after) = []) :
    Given (before ++ (name, .null) :: after) request ↔ Given (before ++ after) request := by
  rw [given_iff_parts, given_iff_parts]
  refine forall₂_congr fun part hpart => ?_
  rcases read_null_of_mem_parts hpart with hname | hnull
  · exact gives_insert_of_ne hdecode (hname ▸ hnullable)
  · exact gives_insert_null hnull hdecode hunset

/-- A field that is not set may be written as `null`. -/
theorem accepted_insert_null {before after : List Member} {name : Spelling} {text : String}
    (hvalid : name.WellFormed) (hdecode : name.decode = .ok text) (hnullable : text ≠ "preSigned")
    (hunset : valuesOf text (before ++ after) = []) :
    Accepted (before ++ after) request ↔ Accepted (before ++ (name, .null) :: after) request := by
  have hspelled : SpelledMember (name, .null) := spelledMember_iff.mpr ⟨hvalid, _, .null⟩
  have hmembers : ∀ {P : Member → Prop}, P (name, .null) →
      ((∀ member ∈ before ++ after, P member) ↔
        ∀ member ∈ before ++ (name, .null) :: after, P member) := by
    intro P hname
    simp only [List.forall_mem_append, List.forall_mem_cons, hname, true_and]
  have hgiven : Given (before ++ (name, .null) :: after) request ↔ Given (before ++ after) request :=
    given_insert_null hdecode hnullable hunset
  constructor
  · rintro ⟨hall, hnamed, h⟩
    exact ⟨(hmembers hspelled).mp hall, (hmembers ⟨text, hdecode⟩).mp hnamed, hgiven.mpr h⟩
  · rintro ⟨hall, hnamed, h⟩
    exact ⟨(hmembers hspelled).mpr hall, (hmembers ⟨text, hdecode⟩).mpr hnamed, hgiven.mp h⟩

/-- A header may be shuffled. -/
theorem Accepted.header {before after : List Member} {name : Spelling}
    (h : Accepted (before ++ (name, .object members .closed) :: after) request)
    (hdecode : name.decode = .ok "ffcapi") (hshuffle : Header.layout.Shuffled members others) :
    Accepted (before ++ (name, .object others .closed) :: after) request := by
  obtain ⟨hspelled, hnamed, hgiven⟩ := h
  simp only [Named, List.forall_mem_append, List.forall_mem_cons] at hspelled hnamed
  obtain ⟨hvalid, hobject⟩ := spelledMember_iff.mp hspelled.2.1
  have hmembers := exists_spells_object_iff.mp hobject
  have hothers := hshuffle.spelledMember hmembers
  have hother : SpelledMember (name, .object others .closed) :=
    spelledMember_iff.mpr ⟨hvalid, exists_spells_object_iff.mpr hothers⟩
  -- The header is read the same, and the other fields do not see it.
  have hread : ∀ content, Reader.optional Header.read 126 (.object members .closed) = .ok content ↔
      Reader.optional Header.read 126 (.object others .closed) = .ok content := by
    intro content
    show (Header.read 126 _).map some = .ok content ↔ (Header.read 126 _).map some = .ok content
    rw [map_eq_ok_iff, map_eq_ok_iff]
    constructor
    · rintro ⟨header, hheader, hcontent⟩
      exact ⟨header, Header.read_shuffled hshuffle hmembers hheader, hcontent⟩
    · rintro ⟨header, hheader, hcontent⟩
      exact ⟨header, Header.read_shuffled hshuffle.symm hothers hheader, hcontent⟩
  have hkept : ∀ {α : Type} {field : String} {read : Outline → Except ReadError α}
      {default content : α}, "ffcapi" ≠ field →
      Gives (before ++ (name, .object members .closed) :: after) field read default content →
        Gives (before ++ (name, .object others .closed) :: after) field read default content := by
    intro α field read default content hne hgives
    exact (gives_insert_of_ne hdecode hne).mpr ((gives_insert_of_ne hdecode hne).mp hgives)
  refine ⟨?_, ?_, ?_⟩
  · simp only [List.forall_mem_append, List.forall_mem_cons]
    exact ⟨hspelled.1, hother, hspelled.2.2⟩
  · simp only [Named, List.forall_mem_append, List.forall_mem_cons]
    exact ⟨hnamed.1, ⟨_, hdecode⟩, hnamed.2.2⟩
  · exact
      { header := (gives_replace hread).mp hgiven.header
        sender := hkept (by decide) hgiven.sender
        recipient := hkept (by decide) hgiven.recipient
        gas := hkept (by decide) hgiven.gas
        nonce := hkept (by decide) hgiven.nonce
        value := hkept (by decide) hgiven.value
        data := hkept (by decide) hgiven.data
        gasPrice := hkept (by decide) hgiven.gasPrice
        preSigned := hkept (by decide) hgiven.preSigned }

/-- **Rearranging members.** Members are accepted as a request exactly when a rearrangement of them
is. -/
theorem Rearranged.accepted_iff (h : Rearranged members others) :
    Accepted members request ↔ Accepted others request := by
  induction h with
  | shuffled shuffle =>
    exact ⟨fun h => h.shuffled shuffle, fun h => h.shuffled shuffle.symm⟩
  | null valid decodes _ nullable unset =>
    exact accepted_insert_null valid decodes nullable unset
  | header decodes shuffle =>
    exact ⟨fun h => h.header decodes shuffle, fun h => h.header decodes shuffle.symm⟩
  | symm _ ih => exact ih.symm
  | trans _ _ ihfirst ihsecond => exact ihfirst.trans ihsecond

/-- A field of a request that is read is stated once at most. -/
theorem Given.length_valuesOf_le (h : Given members request) {name : String}
    (hname : name ∈ layout.names) : (valuesOf name members).length ≤ 1 := by
  obtain ⟨field, hfield⟩ := Layout.exists_field?_of_mem hname
  rcases splits_parts.stated (given_iff_parts.mp h) hfield with hnone | ⟨value, -, hvalues, -⟩
  · simp [hnone]
  · simp [hvalues]

/-! ## Texts -/

/-- **What does not matter.** Let a text of an object be accepted as a request. Then every
rearrangement of its members is the object of some text, and all its texts are accepted as the same
request. None of the names of the fields occurs twice in an object that is accepted. -/
theorem rearranged_parse {text : String} (htext : IsText text.toList (.object members .closed))
    (hparse : parse text = .ok request) :
    (∀ others, Rearranged members others →
      (∃ other : String, IsText other.toList (.object others .closed)) ∧
      ∀ other : String, IsText other.toList (.object others .closed) →
        parse other = .ok request) ∧
    ∀ name ∈ layout.names, (valuesOf name members).length ≤ 1 := by
  have hread : read maxDepth (.object members .closed) = .ok request := by
    rw [← hparse]
    exact (read.parse_of_isText htext).symm
  have hmembers := (read_object_eq_ok_iff_accepted htext.spelledMember).mp hread
  refine ⟨fun others hothers => ?_, fun name hname => hmembers.given.length_valuesOf_le hname⟩
  have haccepted := hothers.accepted_iff.mp hmembers
  constructor
  · obtain ⟨other, hother⟩ := exists_spells_object_iff.mpr haccepted.spelled
    refine ⟨String.ofList other, ?_⟩
    rw [String.toList_ofList]
    exact hother.isText
  · intro other hother
    show read.parse other = .ok request
    rw [read.parse_of_isText hother]
    exact (read_object_eq_ok_iff_accepted haccepted.spelled).mpr haccepted

/-- An object with a recipient and a gas limit, and the same in another order, with a sender that is
`null` and a member that is no field. -/
theorem rearranged_parse_reordered :
    let first : Json := .object [("to", .string "0x0"), ("gas", .number "21000")]
    let second : Json := .object [("gas", .number "21000"), ("note", .array [.null]),
      ("from", .null), ("to", .string "0x0")]
    let request : SendRequest :=
      { empty with recipient := some "0x0", gas := some ⟨21000, by decide⟩ }
    IsText first.compact.toList first.outline ∧ parse first.compact = .ok request ∧
      IsText second.compact.toList second.outline ∧ parse second.compact = .ok request := by
  intro first second request
  have hfirst : IsText first.compact.toList first.outline := isText_compact ⟨trivial, rfl, trivial⟩
  have hsecond : IsText second.compact.toList second.outline :=
    isText_compact ⟨rfl, ⟨trivial, trivial⟩, trivial, trivial, trivial⟩
  have hparse : parse first.compact = .ok request := by
    rw [parse, read.parse_of_isText hfirst]
    rfl
  have horder : layout.Shuffled
      [(.ofText "to", .string (.ofText "0x0")), (.ofText "gas", .number "21000".toList)]
      [(.ofText "gas", .number "21000".toList), (.ofText "to", .string (.ofText "0x0"))] :=
    .perm (.swap _ _ _)
  have hnull := @Rearranged.null [(.ofText "gas", .number "21000".toList)]
    [(.ofText "to", .string (.ofText "0x0"))] (.ofText "from") "from"
    (Spelling.wellFormed_ofText "from") (Spelling.decode_ofText "from") (by decide) (by decide)
    (by decide)
  have hnote : layout.Shuffled
      [(.ofText "gas", .number "21000".toList), (.ofText "from", .null),
        (.ofText "to", .string (.ofText "0x0"))] _ :=
    @Layout.Shuffled.other _ layout [(.ofText "gas", .number "21000".toList)]
      [(.ofText "from", .null), (.ofText "to", .string (.ofText "0x0"))] (.ofText "note") "note"
      (.array false [.null] .closed)
      (spelledMember_iff.mpr ⟨Spelling.wellFormed_ofText "note", _,
        .array space_nil .null (.close space_nil)⟩)
      (Spelling.decode_ofText "note") (by decide)
  have hall := (rearranged_parse hfirst hparse).1 _
    ((Rearranged.shuffled horder).trans (hnull.trans (.shuffled hnote)))
  exact ⟨hfirst, hparse, hsecond, hall.2 second.compact hsecond⟩

end SendRequest

end TxGateway
