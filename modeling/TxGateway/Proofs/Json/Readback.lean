import TxGateway.Json.Record
import TxGateway.Proofs.Json.Members
import TxGateway.Proofs.Json.Spelling
/-!
# Reading back what was printed

The readers applied to the compact text of a value. A value is `Readable` at a depth when it has the
form in which readers return values: numerals in their one spelling, names in order, and no more
containers in one another than the depth allows.

* `read_outline` : a readable value is read back as it is;
* `Reader.parse_compact` : reading a compact text is reading the outline of its value;
* `Layout.parse_entries` : an object whose members fit the fields of a record is read as the record
  with these changes made one after the other.
-/

namespace TxGateway.Json

open Fallible

/-! ## Values of any shape -/

mutual

/-- A value in the form in which a reader returns it, within a depth of containers. -/
def Readable : Nat → Json → Prop
  | _, .null | _, .bool _ | _, .string _ => True
  | _, .number literal =>
    Numeral.check literal.toList = .ok () ∧ Numeral.normal literal.toList = literal.toList
  | 0, .array _ | 0, .object _ => False
  | depth + 1, .array items => ReadableItems depth items
  | depth + 1, .object members => ReadableMembers depth members

/-- Items in the form in which a reader returns them. -/
def ReadableItems : Nat → List Json → Prop
  | _, [] => True
  | depth, item :: items => Readable depth item ∧ ReadableItems depth items

/-- Members in the form in which a reader returns them: in order, and none with the name that is
kept for numerals. -/
def ReadableMembers : Nat → List (String × Json) → Prop
  | _, [] => True
  | depth, (name, value) :: members =>
    name ≠ numeralName ∧ Readable depth value ∧ (∀ member ∈ members, name < member.1) ∧
      ReadableMembers depth members

end

mutual

/-- The numbers of a readable value are literals. -/
theorem Readable.legible {depth : Nat} : ∀ {value : Json}, Readable depth value → value.Legible
  | .null, _ | .bool _, _ | .string _, _ => trivial
  | .number _, h => h.1
  | .array items, h => by
    cases depth with
    | zero => cases h
    | succ depth => exact legible_of_readableItems h
  | .object members, h => by
    cases depth with
    | zero => cases h
    | succ depth => exact legible_of_readableMembers h

/-- The numbers of readable items are literals. -/
theorem legible_of_readableItems {depth : Nat} :
    ∀ {items : List Json}, ReadableItems depth items → LegibleItems items
  | [], _ => trivial
  | _ :: _, h => ⟨h.1.legible, legible_of_readableItems h.2⟩

/-- The numbers of readable members are literals. -/
theorem legible_of_readableMembers {depth : Nat} :
    ∀ {members : List (String × Json)}, ReadableMembers depth members → LegibleMembers members
  | [], _ => trivial
  | (_, _) :: _, h => ⟨h.2.1.legible, legible_of_readableMembers h.2.2.2⟩

end

mutual

/-- **Reading back.** A readable value is read back from its outline. -/
theorem read_outline {depth : Nat} :
    ∀ {value : Json}, Readable depth value → value.outline.read depth = .ok value
  | .null, _ | .bool _, _ => by
    cases depth <;> rfl
  | .string text, _ => by
    have hdecode := Spelling.decode_ofText text
    cases depth <;> simp [outline, Outline.read, hdecode, faulty, Except.mapError, Except.map]
  | .number literal, h => by
    have hnormal := h.2
    cases depth <;> simp [outline, Outline.read, hnormal]
  | .array items, h => by
    cases depth with
    | zero => cases h
    | succ depth =>
      have hitems := readItems_outlineItems h
      simp only [outline, Outline.read, hitems]
      rfl
  | .object [], h => by
    cases depth with
    | zero => cases h
    | succ depth => rfl
  | .object ((name, value) :: members), h => by
    cases depth with
    | zero => cases h
    | succ depth =>
      obtain ⟨hname, hvalue, hfirst, hmembers⟩ := h
      -- The first member is read apart: its name could make the object a numeral.
      have hdecode := Spelling.decode_ofText name
      have hhead := read_outline hvalue
      have htail := readMembers_outlineMembers members [(name, value)]
        (fun first hmem member hmember => by
          rw [List.mem_singleton.mp hmem]
          exact hfirst member hmember) hmembers
      simp only [outline, outlineMembers, Outline.read, hdecode, faulty, Except.mapError]
      show (if name = numeralName then _ else _ : Except ReadError Json) = _
      rw [if_neg hname, hhead]
      show (readMembers depth (outlineMembers members) [(name, value)] >>= _) = _
      rw [htail]
      rfl

/-- Readable items are read back from their outlines. -/
theorem readItems_outlineItems {depth : Nat} :
    ∀ {items : List Json}, ReadableItems depth items →
      readItems depth (outlineItems items) = .ok items
  | [], _ => rfl
  | item :: items, h => by
    have hitem := read_outline h.1
    have hitems := readItems_outlineItems h.2
    simp only [outlineItems, readItems, hitem, hitems]
    rfl

/-- Readable members are read back from their outlines, behind members whose names come before. -/
theorem readMembers_outlineMembers {depth : Nat} :
    ∀ members before : List (String × Json),
      (∀ first ∈ before, ∀ member ∈ members, first.1 < member.1) → ReadableMembers depth members →
      readMembers depth (outlineMembers members) before = .ok (before ++ members)
  | [], before, _, _ => by
    rw [List.append_nil]
    rfl
  | (name, value) :: members, before, hbefore, h => by
    obtain ⟨-, hvalue, hfirst, hmembers⟩ := h
    have hdecode := Spelling.decode_ofText name
    have hhead := read_outline hvalue
    -- All names before are smaller, so the member is put in at the end.
    have hlast : ∀ first ∈ before, first.1 < name :=
      fun first hmem => hbefore first hmem (name, value) List.mem_cons_self
    have htail := readMembers_outlineMembers members (before ++ [(name, value)])
      (fun first hmem member hmember => by
        rcases List.mem_append.mp hmem with hmem | hmem
        · exact hbefore first hmem member (List.mem_cons_of_mem _ hmember)
        · rw [List.mem_singleton.mp hmem]
          exact hfirst member hmember) hmembers
    simp only [outlineMembers, readMembers, hdecode, faulty, Except.mapError]
    show (value.outline.read depth >>= _) = _
    rw [hhead]
    show readMembers depth (outlineMembers members) (insert name value before) = _
    rw [insert_eq_append hlast, htail, List.append_assoc]
    rfl

end

/-! ## Values that fields hold -/

namespace Reader

/-- A string is read back from its outline. -/
theorem text_outline (depth : Nat) (content : String) :
    text depth (Json.string content).outline = .ok content := by
  have hdecode := Spelling.decode_ofText content
  show faulty (Spelling.ofText content).decode = .ok content
  rw [hdecode]
  rfl

/-- A readable value is read back and judged. -/
theorem judged_outline {α : Type} {rule : Json → Except Mismatch α} {depth : Nat} {value : Json}
    {content : α} (hvalue : Readable depth value) (hrule : rule value = .ok content) :
    judged Reader.value rule depth value.outline = .ok content := by
  have hread : Reader.value depth value.outline = .ok value := read_outline hvalue
  rw [judged, hread]
  show (rule value).mapError ReadError.mismatch = .ok content
  rw [hrule]
  rfl

/-- A content is there where something other than `null` is read as this content. -/
theorem optional_eq_some_iff {α : Type} {read : Reader α} {depth : Nat} {outline : Outline}
    {content : α} :
    optional read depth outline = .ok (some content) ↔
      outline ≠ .null ∧ read depth outline = .ok content := by
  constructor
  · intro h
    have hnull : outline ≠ .null := by
      rintro rfl
      cases h
    rw [optional_of_ne_null read depth hnull] at h
    obtain ⟨_, hread, hsame⟩ := map_eq_ok_iff.mp h
    cases hsame
    exact ⟨hnull, hread⟩
  · rintro ⟨hnull, hread⟩
    rw [optional_of_ne_null read depth hnull, hread]
    rfl

/-- Where something other than `null` is read, it is read as something that is there. -/
theorem optional_outline {α : Type} {read : Reader α} {depth : Nat} {value : Json} {content : α}
    (hnull : value ≠ .null) (hread : read depth value.outline = .ok content) :
    optional read depth value.outline = .ok (some content) := by
  have houtline : value.outline ≠ .null := by
    cases value with
    | null => exact absurd rfl hnull
    | bool | number | string | array | object =>
      intro h
      cases h
  exact optional_eq_some_iff.mpr ⟨houtline, hread⟩

end Reader

/-! ## Whole texts -/

/-- Reading a text is reading what the text spells. -/
theorem Reader.parse_of_isText {α : Type} (read : Reader α) {text : String} {root : Outline}
    (h : IsText text.toList root) : read.parse text = read maxDepth root := by
  rw [Reader.parse, Scanner.scan_of_isText h]
  show (read maxDepth root >>= fun result => pure result) = _
  rw [bind_pure]

/-- Reading the compact text of a value is reading the outline of the value. -/
theorem Reader.parse_compact {α : Type} (read : Reader α) {value : Json} (h : value.Legible) :
    read.parse value.compact = read maxDepth value.outline :=
  read.parse_of_isText (isText_compact h)

/-! ## Records -/

namespace Layout

variable {ρ : Type}

/-- A member of an object that is meant for a record: its name and value, and how it changes the
record. -/
structure Entry (ρ : Type) where
  name : String
  value : Json
  change : ρ → ρ

/-- An entry fits a layout when the field of its name reads its value, once printed, as its change.
-/
def Entry.Fits (layout : Layout ρ) (depth : Nat) (entry : Entry ρ) : Prop :=
  entry.value.Legible ∧ ∃ field, layout.field? entry.name = some field ∧
    field.read depth entry.value.outline = .ok entry.change

/-- The member of an entry. -/
def Entry.member (entry : Entry ρ) : String × Json := (entry.name, entry.value)

/-- The entry of a field that may be unset: one entry where it is set, and none where it is not. -/
def Entry.ofField {α : Type} (name : String) (put : Option α → ρ → ρ) (encode : α → Json) :
    Option α → List (Entry ρ)
  | some content => [⟨name, encode content, put (some content)⟩]
  | none => []

/-- The member of a field that may be unset. -/
theorem Entry.map_member_ofField {α : Type} (name : String) (put : Option α → ρ → ρ)
    (encode : α → Json) (content : Option α) :
    (ofField name put encode content).map Entry.member = member? name (content.map encode) := by
  cases content <;> rfl

/-- The entry of a field has the name of the field. -/
theorem Entry.names_ofField_sublist {α : Type} (name : String) (put : Option α → ρ → ρ)
    (encode : α → Json) (content : Option α) :
    ((ofField name put encode content).map Entry.name).Sublist [name] := by
  cases content with
  | none => exact List.nil_sublist _
  | some content => exact List.Sublist.refl _

/-- The entry of a field puts the content of the field into a record where it was not set. -/
theorem Entry.foldl_ofField {α : Type} (name : String) (put : Option α → ρ → ρ)
    (encode : α → Json) (content : Option α) {record : ρ} (h : put none record = record) :
    (ofField name put encode content).foldl (fun record entry => entry.change record) record =
      put content record := by
  cases content with
  | none => exact h.symm
  | some content => rfl

/-- The entry of a field fits where the field reads what was encoded. -/
theorem Entry.fits_ofField {α : Type} {layout : Layout ρ} {depth : Nat} {name : String}
    {presence : Presence} {read : Reader (Option α)} {put : Option α → ρ → ρ} {encode : α → Json}
    {content : Option α} (hfield : layout.field? name = some (.of name presence read put))
    (hread : ∀ found, content = some found →
      (encode found).Legible ∧ read depth (encode found).outline = .ok (some found)) :
    ∀ entry ∈ ofField name put encode content, entry.Fits layout depth := by
  intro entry hentry
  cases content with
  | none => cases hentry
  | some found =>
    obtain ⟨hlegible, hfound⟩ := hread found rfl
    rw [List.mem_singleton.mp hentry]
    refine ⟨hlegible, _, hfield, ?_⟩
    show (read depth (encode found).outline).map put = .ok (put (some found))
    rw [hfound]
    rfl

/-- The entry of a field that is `null` where it is unset. -/
def Entry.nullable {α : Type} (name : String) (put : Option α → ρ → ρ) (encode : α → Json)
    (content : Option α) : Entry ρ :=
  ⟨name, (content.map encode).getD .null, put content⟩

/-- One member that fits a layout is read: it changes the record, and its name is kept. -/
theorem readMembers_cons (layout : Layout ρ) {depth : Nat} {name : String} {value : Outline}
    {field : Field ρ} {change : ρ → ρ} (hfield : layout.field? name = some field)
    (hread : field.read depth value = .ok change) {seen : List String} (hnew : name ∉ seen)
    (members : List Member) (record : ρ) :
    layout.readMembers depth ((.ofText name, value) :: members) seen record =
      layout.readMembers depth members (name :: seen) (change record) := by
  have hdecode := Spelling.decode_ofText name
  simp [readMembers, hdecode, faulty, Except.mapError, hfield, hread, hnew, bind, Except.bind]

/-- Members that fit a layout are read one after the other, and their names are kept. -/
theorem readMembers_entries (layout : Layout ρ) (depth : Nat) {entries : List (Entry ρ)}
    (hfits : ∀ entry ∈ entries, entry.Fits layout depth) (hnames : (entries.map Entry.name).Nodup)
    (seen : List String) (hseen : ∀ entry ∈ entries, entry.name ∉ seen) (record : ρ) :
    layout.readMembers depth (outlineMembers (entries.map Entry.member)) seen record =
      .ok ((entries.map Entry.name).reverse ++ seen,
        entries.foldl (fun record entry => entry.change record) record) := by
  -- The names read so far and the record change with every entry, so both are generalized.
  induction entries generalizing seen record with
  | nil => rfl
  | cons entry entries ih =>
    obtain ⟨hhead, hrest⟩ := List.nodup_cons.mp hnames
    obtain ⟨-, field, hfield, hread⟩ := hfits entry List.mem_cons_self
    have hnew : entry.name ∉ seen := hseen entry List.mem_cons_self
    have hlater : ∀ later ∈ entries, later.name ∉ entry.name :: seen := by
      intro later hlater
      rw [List.mem_cons, not_or]
      constructor
      · intro hsame
        exact hhead (List.mem_map.mpr ⟨later, hlater, hsame⟩)
      · exact hseen later (List.mem_cons_of_mem _ hlater)
    have htail := ih (fun later h => hfits later (List.mem_cons_of_mem _ h)) hrest
      (entry.name :: seen) hlater (entry.change record)
    rw [List.map_cons, Entry.member, outlineMembers, readMembers_cons layout hfield hread hnew,
      htail, List.map_cons, List.reverse_cons, List.append_assoc]
    rfl

/-- No field is missing where every field that has to be there was read. -/
theorem missing?_eq_none_of_mem {layout : Layout ρ} {seen : List String}
    (h : ∀ field ∈ layout.fields, field.presence = .required → field.name ∈ seen) :
    layout.missing? seen = none := by
  rw [missing?, List.find?_eq_none]
  intro field hfield
  by_cases hrequired : field.presence = .required
  · simp [h field hfield hrequired]
  · simp [hrequired]

/-- No field is missing where no field has to be there. -/
theorem missing?_eq_none {layout : Layout ρ}
    (h : ∀ field ∈ layout.fields, field.presence ≠ .required) (seen : List String) :
    layout.missing? seen = none :=
  missing?_eq_none_of_mem fun field hfield hrequired => absurd hrequired (h field hfield)

/-- The members of entries that fit a layout are legible. -/
theorem legibleMembers_entries {layout : Layout ρ} {depth : Nat} {entries : List (Entry ρ)}
    (hfits : ∀ entry ∈ entries, entry.Fits layout depth) :
    LegibleMembers (entries.map Entry.member) := by
  induction entries with
  | nil => trivial
  | cons entry entries ih =>
    refine ⟨(hfits entry List.mem_cons_self).1, ih ?_⟩
    intro later hlater
    exact hfits later (List.mem_cons_of_mem _ hlater)

/-- An object is read as its members are, where no field is missing. -/
theorem readObject_of_readMembers {layout : Layout ρ} {depth : Nat} {members : List Member}
    {seen : List String} {record : ρ}
    (hread : layout.readMembers depth members [] layout.blank = .ok (seen, record))
    (hmissing : layout.missing? seen = none) :
    layout.readObject depth members .closed = .ok record := by
  simp [readObject, hread, hmissing, faulty, Ending.close, Except.mapError, bind, Except.bind, pure,
    Except.pure]

/-- **Reading a record.** An object whose members fit a layout, each with a name of its own, is read
as the record that their changes make, if every field that has to be there has a member. -/
theorem read_entries_of_stated {layout : Layout ρ} {depth : Nat} {entries : List (Entry ρ)}
    (hfits : ∀ entry ∈ entries, entry.Fits layout depth) (hnames : (entries.map Entry.name).Nodup)
    (hstated : ∀ field ∈ layout.fields, field.presence = .required →
      field.name ∈ entries.map Entry.name) :
    layout.read (depth + 1) (Json.object (entries.map Entry.member)).outline =
      .ok (entries.foldl (fun record entry => entry.change record) layout.blank) := by
  have hread := layout.readMembers_entries depth hfits hnames [] (fun entry _ => List.not_mem_nil)
    layout.blank
  refine readObject_of_readMembers hread (missing?_eq_none_of_mem fun field hfield hrequired => ?_)
  rw [List.append_nil, List.mem_reverse]
  exact hstated field hfield hrequired

/-- The same where no field has to be there. -/
theorem read_entries {layout : Layout ρ} {depth : Nat} {entries : List (Entry ρ)}
    (hfits : ∀ entry ∈ entries, entry.Fits layout depth) (hnames : (entries.map Entry.name).Nodup)
    (hpresent : ∀ field ∈ layout.fields, field.presence ≠ .required) :
    layout.read (depth + 1) (Json.object (entries.map Entry.member)).outline =
      .ok (entries.foldl (fun record entry => entry.change record) layout.blank) :=
  read_entries_of_stated hfits hnames fun field hfield hrequired =>
    absurd hrequired (hpresent field hfield)

/-- The compact text of such an object is read as the record. -/
theorem parse_entries_of_stated {layout : Layout ρ} {entries : List (Entry ρ)}
    (hfits : ∀ entry ∈ entries, entry.Fits layout 126) (hnames : (entries.map Entry.name).Nodup)
    (hstated : ∀ field ∈ layout.fields, field.presence = .required →
      field.name ∈ entries.map Entry.name) :
    layout.read.parse (Json.object (entries.map Entry.member)).compact =
      .ok (entries.foldl (fun record entry => entry.change record) layout.blank) := by
  have hlegible : (Json.object (entries.map Entry.member)).Legible := legibleMembers_entries hfits
  rw [Reader.parse_compact layout.read hlegible]
  exact read_entries_of_stated hfits hnames hstated

/-- The same where no field has to be there. -/
theorem parse_entries {layout : Layout ρ} {entries : List (Entry ρ)}
    (hfits : ∀ entry ∈ entries, entry.Fits layout 126) (hnames : (entries.map Entry.name).Nodup)
    (hpresent : ∀ field ∈ layout.fields, field.presence ≠ .required) :
    layout.read.parse (Json.object (entries.map Entry.member)).compact =
      .ok (entries.foldl (fun record entry => entry.change record) layout.blank) :=
  parse_entries_of_stated hfits hnames fun field hfield hrequired =>
    absurd hrequired (hpresent field hfield)

end Layout

end TxGateway.Json
