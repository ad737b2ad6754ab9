import Mathlib.Data.List.Forall2
import TxGateway.Proofs.Draft
import TxGateway.Proofs.Json.MemberOrder
/-!
# Requests by places

A request may be given as an array: its items are the values of the fields, in the order of the
fields, and the fields behind the last item are not set. `arrayText` and `objectText` write both
forms from the texts of the values.

* `isText_arrayText`, `isText_objectText` : what is written so is a JSON text of its values;
* `Layout.readMembers_congr` : how names are spelled makes no difference to a record;
* `SendRequest.places_agree_with_names` : the array of some values and the object that gives them to
  the first fields are parsed alike, as the same request or with the same error.
-/

namespace TxGateway

namespace Json

/-! ## Texts of containers -/

/-- An array, written from the texts of its items. -/
def arrayText (texts : List String) : String := "[" ++ ",".intercalate texts ++ "]"

/-- A member, written from its name and the text of its value. -/
def memberText (member : String × String) : String := (string member.1).compact ++ ":" ++ member.2

/-- An object, written from the names and the texts of its members. -/
def objectText (members : List (String × String)) : String :=
  "\x7b" ++ ",".intercalate (members.map memberText) ++ "\x7d"

/-- Texts of values, each a JSON text of its own. -/
abbrev Texts (texts : List String) (values : List Outline) : Prop :=
  List.Forall₂ (fun text value => IsText text.toList value) texts values

/-- Texts that each are a JSON text are the texts of some values. -/
theorem exists_texts {texts : List String} (h : ∀ text ∈ texts, ∃ value, IsText text.toList value) :
    ∃ values, Texts texts values := by
  induction texts with
  | nil => exact ⟨[], .nil⟩
  | cons text texts ih =>
    obtain ⟨⟨value, hvalue⟩, hrest⟩ := List.forall_mem_cons.mp h
    obtain ⟨values, hvalues⟩ := ih hrest
    exact ⟨value :: values, .cons hvalue hvalues⟩

/-- Texts with commas between them are the first text and the others, each behind a comma. -/
theorem intercalate_cons (text : List Char) (texts : List (List Char)) :
    [','].intercalate (text :: texts) = text ++ texts.flatMap (',' :: ·) := by
  induction texts generalizing text with
  | nil => simp
  | cons next texts ih => simp [List.intercalate_cons_cons, ih]

/-- The texts of items behind an item, up to the closing bracket, spell the items. -/
theorem spellsItems_flatMap {texts : List String} {items : List Outline} (h : Texts texts items)
    {space : List Char} (hspace : Space space) :
    SpellsItems (space ++ ((texts.map String.toList).flatMap (',' :: ·) ++ [']'])) items := by
  induction h generalizing space with
  | nil => exact .close hspace
  | cons htext _ ih =>
    -- The white space behind an item stands before the next comma or bracket.
    obtain ⟨before, value, after, htext, hbefore, hafter, hvalue⟩ := htext.exists_eq
    have hitems := SpellsItems.next hspace hbefore hvalue (ih hafter)
    simpa [htext] using hitems

/-- An array of texts is a JSON text of the array of their values. -/
theorem isText_arrayText {texts : List String} {items : List Outline} (h : Texts texts items) :
    ∃ blank, IsText (arrayText texts).toList (.array blank items .closed) := by
  cases h with
  | nil => exact ⟨_, (Spells.emptyArray space_nil).isText⟩
  | cons htext hrest =>
    obtain ⟨before, value, after, htext, hbefore, hafter, hvalue⟩ := htext.exists_eq
    have harray := Spells.array hbefore hvalue (spellsItems_flatMap hrest hafter)
    refine ⟨!before.isEmpty, ?_⟩
    simp only [arrayText, String.toList_append, String.toList_intercalate, List.map_cons, htext]
    rw [show ",".toList = [','] from rfl, intercalate_cons]
    simpa using harray.isText

/-- Texts of members: each has the name of its member, and its value is a JSON text. -/
abbrev MemberTexts (texts : List (String × String)) (members : List Member) : Prop :=
  List.Forall₂ (fun text member => member.1 = .ofText text.1 ∧ IsText text.2.toList member.2) texts
    members

/-- The text of a member is the member and white space behind it. -/
theorem exists_spellsMember {text : String × String} {member : Member}
    (hname : member.1 = .ofText text.1) (hvalue : IsText text.2.toList member.2) :
    ∃ spelled after, (memberText text).toList = spelled ++ after ∧ Space after ∧
      SpellsMember spelled member := by
  obtain ⟨name, outline⟩ := member
  obtain rfl : name = .ofText text.1 := hname
  obtain ⟨before, value, after, htext, hbefore, hafter, hspells⟩ := hvalue.exists_eq
  have hmember := SpellsMember.member (Spelling.wellFormed_ofText text.1) space_nil hbefore hspells
  refine ⟨_, after, ?_, hafter, hmember⟩
  rw [Spelling.text_ofText]
  simp [memberText, compact, print, htext]

/-- The texts of members behind a member, up to the closing brace, spell the members. -/
theorem spellsMembers_flatMap {texts : List (String × String)} {members : List Member}
    (h : MemberTexts texts members) {space : List Char} (hspace : Space space) :
    SpellsMembers (space ++ ((texts.map fun text => (memberText text).toList).flatMap (',' :: ·) ++
      ['}'])) members := by
  induction h generalizing space with
  | nil => exact .close hspace
  | cons hmember _ ih =>
    obtain ⟨spelled, after, htext, hafter, hmember⟩ := exists_spellsMember hmember.1 hmember.2
    have hmembers := SpellsMembers.next hspace space_nil hmember (ih hafter)
    simpa [htext] using hmembers

/-- An object of texts is a JSON text of the object of their values. -/
theorem isText_objectText {texts : List (String × String)} {members : List Member}
    (h : MemberTexts texts members) :
    IsText (objectText texts).toList (.object members .closed) := by
  cases h with
  | nil => exact (Spells.emptyObject space_nil).isText
  | cons hmember hrest =>
    obtain ⟨spelled, after, htext, hafter, hmember⟩ := exists_spellsMember hmember.1 hmember.2
    have hobject := Spells.object space_nil hmember (spellsMembers_flatMap hrest hafter)
    simp only [objectText, String.toList_append, String.toList_intercalate, List.map_cons, htext,
      List.map_map]
    rw [show ",".toList = [','] from rfl, intercalate_cons]
    simpa [Function.comp_def] using hobject.isText

/-! ## Records -/

namespace Layout

variable {ρ : Type} {layout : Layout ρ}

/-- An object gives items to the first fields of a record, in their order: a member for each item,
with a name that stands for the name of the field. -/
def Assigns (layout : Layout ρ) (members : List Member) (items : List Outline) : Prop :=
  members.map (fun member => (member.1.decode, member.2)) =
    (layout.names.zip items).map fun place => (.ok place.1, place.2)

/-- **Spelling of names.** Members whose names stand for the same texts are read into the same
record, or fail to be with the same error. -/
theorem readMembers_congr {depth : Nat} {members others : List Member}
    (h : members.map (fun member => (member.1.decode, member.2)) =
      others.map fun member => (member.1.decode, member.2))
    (seen : List String) (record : ρ) :
    layout.readMembers depth members seen record = layout.readMembers depth others seen record := by
  induction members generalizing others seen record with
  | nil =>
    obtain rfl := List.map_eq_nil_iff.mp h.symm
    rfl
  | cons member members ih =>
    obtain ⟨other, others, rfl, hother, hrest⟩ := List.map_eq_cons_iff.mp h.symm
    obtain ⟨name, value⟩ := member
    obtain ⟨spelling, outline⟩ := other
    obtain ⟨hname, rfl⟩ := Prod.mk.inj hother
    have htail := fun seen record => ih hrest.symm seen record
    simp only at hname
    simp only [readMembers, hname, htail]

/-- Items under the names of the fields are given to the first fields. -/
theorem assigns_placed (items : List Outline) :
    layout.Assigns (placed layout.fields items) items := by
  rw [Assigns, placed, names, List.zip_map_left, List.map_map, List.map_map]
  refine List.map_congr_left fun place _ => ?_
  show ((Spelling.ofText place.1.name).decode, place.2) = _
  rw [Spelling.decode_ofText]
  rfl

/-- No value stands under the name of a field behind the last item. -/
theorem valuesOf_placed_eq_nil {fields : List (Field ρ)} {items : List Outline} {name : String}
    (h : name ∉ (fields.map Field.name).take items.length) :
    valuesOf name (placed fields items) = [] := by
  induction fields generalizing items with
  | nil => rfl
  | cons field fields ih =>
    cases items with
    | nil => rfl
    | cons item items =>
      rw [List.map_cons, List.length_cons, List.take_succ_cons, List.mem_cons, not_or] at h
      have hrest := ih h.2
      show valuesOf name ((.ofText field.name, item) :: placed fields items) = []
      rw [valuesOf_cons_of_ne (Spelling.decode_ofText field.name) (Ne.symm h.1), hrest]

/-- Texts under the names of the fields are the texts of the items there. -/
theorem memberTexts_placed {fields : List (Field ρ)} {texts : List String} {items : List Outline}
    (h : Texts texts items) :
    MemberTexts ((fields.map Field.name).zip texts) (placed fields items) := by
  induction fields generalizing texts items with
  | nil => exact .nil
  | cons field fields ih =>
    cases h with
    | nil => exact .nil
    | cons htext hrest => exact .cons ⟨rfl, htext⟩ (ih hrest)

end Layout

end Json

/-! ## Requests -/

namespace SendRequest

open Json

variable {request : SendRequest}

/-- The names of the fields of a request, in the order of their places in an array. -/
def fieldNames : List String :=
  ["ffcapi", "from", "to", "gas", "nonce", "value", "transactionData", "gasPrice", "preSigned"]

/-- They are the names of the fields in the order in which requests are read. -/
theorem names_layout : layout.names = fieldNames := rfl

/-- The fields of a request from a place on are not set. -/
structure UnsetFrom (place : Nat) (request : SendRequest) : Prop where
  header : place ≤ 0 → request.header = none
  sender : place ≤ 1 → request.sender = none
  recipient : place ≤ 2 → request.recipient = none
  gas : place ≤ 3 → request.gas = none
  nonce : place ≤ 4 → request.nonce = none
  value : place ≤ 5 → request.value = none
  data : place ≤ 6 → request.data = none
  gasPrice : place ≤ 7 → request.gasPrice = none
  preSigned : place ≤ 8 → request.preSigned = false

/-- Items under the names of the fields leave the fields behind them unset. -/
theorem Given.unsetFrom {items : List Outline}
    (h : Given (Layout.placed layout.fields items) request) : request.UnsetFrom items.length := by
  have hunset : ∀ {α : Type} {name : String} {read : Outline → Except ReadError α}
      {default content : α} (place : Nat), name ∉ layout.names.take place →
      Gives (Layout.placed layout.fields items) name read default content →
        items.length ≤ place → content = default := by
    intro α name read default content place hname hgives hplace
    refine (gives_of_nil (Layout.valuesOf_placed_eq_nil ?_)).mp hgives
    exact fun hmem => hname (List.take_subset_take_left _ hplace hmem)
  exact
    { header := hunset 0 (by decide) h.header
      sender := hunset 1 (by decide) h.sender
      recipient := hunset 2 (by decide) h.recipient
      gas := hunset 3 (by decide) h.gas
      nonce := hunset 4 (by decide) h.nonce
      value := hunset 5 (by decide) h.value
      data := hunset 6 (by decide) h.data
      gasPrice := hunset 7 (by decide) h.gasPrice
      preSigned := hunset 8 (by decide) h.preSigned }

/-- The text of an array is parsed as the object that has the items under the names of the
fields. -/
theorem parse_array_eq {items : List Outline} (hfits : items.length ≤ 9) {text : String}
    {blank : Bool} (h : IsText text.toList (.array blank items .closed)) :
    parse text = read maxDepth (.object (Layout.placed layout.fields items) .closed) := by
  rw [parse, read.parse_of_isText h]
  exact read_array_eq hfits

/-- So is the text of any object that gives the items to the first fields. -/
theorem parse_object_eq {items : List Outline} {members : List Member}
    (hassigns : layout.Assigns members items) {text : String}
    (h : IsText text.toList (.object members .closed)) :
    parse text = read maxDepth (.object (Layout.placed layout.fields items) .closed) := by
  have hplaced := hassigns.trans (Layout.assigns_placed items).symm
  rw [parse, read.parse_of_isText h]
  show layout.readObject 126 members .closed = layout.readObject 126 _ .closed
  rw [Layout.readObject, Layout.readObject, Layout.readMembers_congr hplaced]

/-- The text of an array leaves the fields behind its last item unset. -/
theorem unsetFrom_of_parse {items : List Outline} (hfits : items.length ≤ 9) {text : String}
    {blank : Bool} (htext : IsText text.toList (.array blank items .closed))
    (h : parse text = .ok request) : request.UnsetFrom items.length := by
  obtain ⟨⟨⟩, hitems, -⟩ := Fallible.bind_eq_ok_iff.mp htext.skip_eq
  rw [parse_array_eq hfits htext, read_object_eq_ok_iff (Layout.skip_of_mem_placed hitems)] at h
  exact h.2.unsetFrom

/-- **Places and names.** Let some JSON texts be given, not more than a request has fields. The
array of these texts, and the object that has them under the names of the first fields, are parsed
alike: as the same request, in which the fields behind the last text are not set, or with the same
error. Nor does it matter how the array and the object are spaced and how the names are spelled. -/
theorem places_agree_with_names {texts : List String} (hcount : texts.length ≤ 9)
    (hvalues : ∀ text ∈ texts, ∃ value, IsText text.toList value) :
    parse (arrayText texts) = parse (objectText (fieldNames.zip texts)) ∧
    (∀ request, parse (arrayText texts) = .ok request → request.UnsetFrom texts.length) ∧
    ∀ items, Texts texts items → ∀ (array object : String) (blank : Bool) (members : List Member),
      IsText array.toList (.array blank items .closed) →
      IsText object.toList (.object members .closed) → layout.Assigns members items →
        parse array = parse (arrayText texts) ∧ parse object = parse (arrayText texts) := by
  have harrays : ∀ {items}, Texts texts items →
      items.length ≤ 9 ∧ ∃ blank, IsText (arrayText texts).toList (.array blank items .closed) :=
    fun htexts => ⟨htexts.length_eq ▸ hcount, isText_arrayText htexts⟩
  refine ⟨?_, ?_, ?_⟩
  · obtain ⟨items, htexts⟩ := exists_texts hvalues
    obtain ⟨hfits, blank, harray⟩ := harrays htexts
    have hobject : IsText (objectText (layout.names.zip texts)).toList
        (.object (Layout.placed layout.fields items) .closed) :=
      isText_objectText (Layout.memberTexts_placed htexts)
    rw [names_layout] at hobject
    rw [parse_array_eq hfits harray]
    exact (parse_object_eq (Layout.assigns_placed items) hobject).symm
  · intro request hrequest
    obtain ⟨items, htexts⟩ := exists_texts hvalues
    obtain ⟨hfits, blank, harray⟩ := harrays htexts
    rw [htexts.length_eq]
    exact unsetFrom_of_parse hfits harray hrequest
  · intro items htexts array object blank members harray hobject hassigns
    obtain ⟨hfits, _, htext⟩ := harrays htexts
    rw [parse_array_eq hfits htext]
    exact ⟨parse_array_eq hfits harray, parse_object_eq hassigns hobject⟩

/-- Four values, of which two set a field, in an array and under the names. -/
theorem places_agree_with_names_sample :
    let texts := [Json.null, .string "0x00", .null, .string "0x5208"].map compact
    let request : SendRequest :=
      { empty with sender := some "0x00", gas := some ⟨21000, by decide⟩ }
    texts.length ≤ 9 ∧ (∀ text ∈ texts, ∃ value, IsText text.toList value) ∧
      parse (arrayText texts) = .ok request ∧
      parse (objectText (fieldNames.zip texts)) = .ok request ∧ request.UnsetFrom 4 := by
  intro texts request
  have hnull : IsText Json.null.compact.toList _ := isText_compact trivial
  have hsender : IsText (Json.string "0x00").compact.toList _ := isText_compact trivial
  have hgas : IsText (Json.string "0x5208").compact.toList _ := isText_compact trivial
  have htexts : Texts texts _ := .cons hnull (.cons hsender (.cons hnull (.cons hgas .nil)))
  have hvalues : ∀ text ∈ texts, ∃ value, IsText text.toList value := by
    simp only [texts, List.map_cons, List.forall_mem_cons]
    exact ⟨⟨_, hnull⟩, ⟨_, hsender⟩, ⟨_, hnull⟩, ⟨_, hgas⟩, by simp⟩
  obtain ⟨_, harray⟩ := isText_arrayText htexts
  have hparse : parse (arrayText texts) = .ok request := by
    rw [parse_array_eq (by decide) harray]
    rfl
  have hagree := places_agree_with_names (by decide) hvalues
  exact ⟨by decide, hvalues, hparse, hagree.1 ▸ hparse, hagree.2.1 request hparse⟩

end SendRequest

end TxGateway
