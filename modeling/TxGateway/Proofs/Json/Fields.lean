import TxGateway.Proofs.Json.Readback
/-!
# From the members of an object to the fields of a record

`valuesOf` finds the values that an object states under a name. A record is read from an object
exactly when every name can be read, members that are no fields are well formed, no field is stated
twice, and every field that is stated reads its value (`exists_readMembers`); each field of the
record is then what its own member gives (`Gives`), wherever that member stands
(`gives_of_readMembers`). Where the fields split a record into parts, it is read just from what its
members give for them (`Splits.readObject_eq_ok_iff`). A record that is written as an array is read
as the object with the same values under the names of the fields (`read_array_eq_read_object`).
-/

namespace TxGateway.Json

open Fallible

/-- The values of the members with a given name, in the order of the text. -/
def valuesOf (name : String) : List Member → List Outline
  | [] => []
  | (spelling, value) :: members =>
    if spelling.decode = .ok name then value :: valuesOf name members else valuesOf name members

/-- Whether every member has a name that can be read. -/
def Named (members : List Member) : Prop := ∀ member ∈ members, ∃ name, member.1.decode = .ok name

/-- What an object gives under a name: the content of the only member of this name, or the default
if there is none. -/
def Gives {α : Type} (members : List Member) (name : String) (read : Outline → Except ReadError α)
    (default content : α) : Prop :=
  match valuesOf name members with
  | [] => content = default
  | [value] => read value = .ok content
  | _ :: _ :: _ => False

/-- Printed names can be read. -/
theorem named_outlineMembers (members : List (String × Json)) : Named (outlineMembers members) := by
  induction members with
  | nil =>
    intro member hmember
    cases hmember
  | cons member members ih => exact List.forall_mem_cons.mpr ⟨⟨_, Spelling.decode_ofText _⟩, ih⟩

/-- What is refused is not read as anything. -/
theorem Reader.reject_ne_ok {α : Type} {wanted : Wanted} {outline : Outline} {content : α} :
    reject wanted outline ≠ .ok content := by
  intro h
  obtain ⟨_, -, h⟩ := bind_eq_ok_iff.mp h
  cases h

/-- Each member of an object that can be passed over has a value that can. -/
theorem skip_of_mem_of_skipMembers {members : List Member} (h : skipMembers members = .ok ()) :
    ∀ member ∈ members, member.2.skip = .ok () := by
  induction members with
  | nil =>
    intro member hmember
    cases hmember
  | cons first members ih =>
    obtain ⟨⟨⟩, -, hrest⟩ := bind_eq_ok_iff.mp h
    obtain ⟨⟨⟩, hvalue, hrest⟩ := bind_eq_ok_iff.mp hrest
    exact List.forall_mem_cons.mpr ⟨hvalue, ih hrest⟩

/-! ## Values under a name -/

section Values

variable {name other : String} {spelling : Spelling} {value : Outline} {members : List Member}

/-- A member of the name counts. -/
theorem valuesOf_cons_of_eq (h : spelling.decode = .ok name) :
    valuesOf name ((spelling, value) :: members) = value :: valuesOf name members := if_pos h

/-- A member of another name does not count. -/
theorem valuesOf_cons_of_ne (h : spelling.decode = .ok other) (hne : other ≠ name) :
    valuesOf name ((spelling, value) :: members) = valuesOf name members := by
  refine if_neg ?_
  intro hsame
  rw [h] at hsame
  exact hne (Except.ok.inj hsame)

variable {α : Type} {read : Outline → Except ReadError α} {default content : α}

/-- Nothing under a name gives the default. -/
theorem gives_of_nil (h : valuesOf name members = []) :
    Gives members name read default content ↔ content = default := by
  rw [Gives, h]

/-- One value under a name gives what it is read as. -/
theorem gives_of_singleton (h : valuesOf name members = [value]) :
    Gives members name read default content ↔ read value = .ok content := by
  rw [Gives, h]

/-- An object gives at most one content under a name. -/
theorem Gives.unique {first second : α} (hfirst : Gives members name read default first)
    (hsecond : Gives members name read default second) : first = second := by
  rcases h : valuesOf name members with _ | ⟨value, _ | ⟨_, _⟩⟩
  · rw [gives_of_nil h] at hfirst hsecond
    rw [hfirst, hsecond]
  · rw [gives_of_singleton h] at hfirst hsecond
    rw [hfirst] at hsecond
    exact Except.ok.inj hsecond
  · rw [Gives, h] at hfirst
    cases hfirst

end Values

/-! ## Reading members -/

namespace Layout

variable {ρ α : Type} {layout : Layout ρ} {depth : Nat} {members : List Member}
  {seen seen' : List String} {record record' : ρ}

/-- The field with a name has this name. -/
theorem name_of_field? {name : String} {field : Field ρ} (h : layout.field? name = some field) :
    field.name = name := by
  unfold field? at h
  have hfound := List.find?_some h
  exact beq_iff_eq.mp hfound

/-- The field with a name is one of the fields. -/
theorem mem_of_field? {name : String} {field : Field ρ} (h : layout.field? name = some field) :
    field ∈ layout.fields := List.mem_of_find?_eq_some h

/-- How one member is read: it is no field and is passed over, or it is a field that was not read
before and changes the record. -/
theorem readMembers_cons_eq_ok_iff {name : Spelling} {value : Outline}
    {result : List String × ρ} :
    layout.readMembers depth ((name, value) :: members) seen record = .ok result ↔
      ∃ text, name.decode = .ok text ∧
        ((layout.field? text = none ∧ value.skip = .ok () ∧
            layout.readMembers depth members seen record = .ok result) ∨
          ∃ field change, layout.field? text = some field ∧ text ∉ seen ∧
            field.read depth value = .ok change ∧
            layout.readMembers depth members (text :: seen) (change record) = .ok result) := by
  rw [readMembers, bind_eq_ok_iff]
  refine exists_congr fun text => ?_
  rw [faulty, mapError_eq_ok_iff]
  refine and_congr_right fun _ => ?_
  cases hfield : layout.field? text with
  | none =>
    simp only [bind_eq_ok_iff, faulty, mapError_eq_ok_iff]
    constructor
    · rintro ⟨⟨⟩, hskip, hrest⟩
      exact Or.inl ⟨trivial, hskip, hrest⟩
    · rintro (⟨-, hskip, hrest⟩ | ⟨_, _, h, -⟩)
      · exact ⟨(), hskip, hrest⟩
      · cases h
  | some field =>
    by_cases hseen : text ∈ seen
    · simp only [hseen, if_true]
      constructor
      · intro h
        cases h
      · rintro (⟨h, -⟩ | ⟨_, _, -, h, -⟩)
        · cases h
        · exact absurd trivial h
    · simp only [hseen, if_false, bind_eq_ok_iff]
      constructor
      · rintro ⟨change, hchange, hrest⟩
        exact Or.inr ⟨field, change, rfl, not_false, hchange, hrest⟩
      · rintro (⟨h, -⟩ | ⟨_, change, h, -, hchange, hrest⟩)
        · cases h
        · cases h
          exact ⟨change, hchange, hrest⟩

/-- Members that are read have names that can be read. -/
theorem named_of_readMembers
    (h : layout.readMembers depth members seen record = .ok (seen', record')) : Named members := by
  induction members generalizing seen record with
  | nil =>
    intro member hmember
    cases hmember
  | cons member members ih =>
    obtain ⟨text, htext, ⟨-, -, h⟩ | ⟨_, _, -, -, -, h⟩⟩ := readMembers_cons_eq_ok_iff.mp h
    · exact List.forall_mem_cons.mpr ⟨⟨text, htext⟩, ih h⟩
    · exact List.forall_mem_cons.mpr ⟨⟨text, htext⟩, ih h⟩

/-- The names that are kept: those from before, and those of the fields that are stated. -/
theorem mem_seen_of_readMembers
    (h : layout.readMembers depth members seen record = .ok (seen', record')) {name : String}
    {field : Field ρ} (hfield : layout.field? name = some field) :
    name ∈ seen' ↔ name ∈ seen ∨ valuesOf name members ≠ [] := by
  induction members generalizing seen record with
  | nil =>
    cases h
    simp [valuesOf]
  | cons member members ih =>
    obtain ⟨text, htext, ⟨hother, -, h⟩ | ⟨_, _, -, -, -, h⟩⟩ := readMembers_cons_eq_ok_iff.mp h
    · have hne : text ≠ name := by
        rintro rfl
        rw [hfield] at hother
        cases hother
      rw [valuesOf_cons_of_ne htext hne]
      exact ih h
    · rw [ih h, List.mem_cons]
      by_cases hname : text = name
      · subst hname
        simp [valuesOf_cons_of_eq htext]
      · rw [valuesOf_cons_of_ne htext hname]
        simp [Ne.symm hname]

/-- A part of the record is left as it is by the field. -/
def Keeps (field : Field ρ) (get : ρ → α) : Prop :=
  ∀ ⦃depth value change⦄, field.read depth value = .ok change →
    ∀ record, get (change record) = get record

/-- A field leaves what its contents leave. -/
theorem keeps_of {β : Type} {name : String} {presence : Presence} {read : Reader β}
    {put : β → ρ → ρ} {get : ρ → α} (h : ∀ content record, get (put content record) = get record) :
    Keeps (.of name presence read put) get := by
  intro depth value change hchange record
  obtain ⟨content, -, rfl⟩ := map_eq_ok_iff.mp hchange
  exact h content record

/-- **Reading a field.** Where a part of the record belongs to one field and all other fields leave
it, the record has in it what the object gives for the field. -/
theorem gives_of_readMembers {name : String} {presence : Presence} {read : Reader α}
    {put : α → ρ → ρ} {get : ρ → α}
    (hfield : layout.field? name = some (.of name presence read put))
    (hget : ∀ content record, get (put content record) = content)
    (hkeeps : ∀ other field, layout.field? other = some field → other ≠ name → Keeps field get)
    (h : layout.readMembers depth members seen record = .ok (seen', record')) :
    (name ∈ seen → valuesOf name members = [] ∧ get record' = get record) ∧
      (name ∉ seen → Gives members name (read depth) (get record) (get record')) := by
  -- Once the name is read, no further member may have it, and the part of the record is final.
  induction members generalizing seen record with
  | nil =>
    cases h
    exact ⟨fun _ => ⟨rfl, rfl⟩, fun _ => rfl⟩
  | cons member members ih =>
    obtain ⟨text, htext, hcase⟩ := readMembers_cons_eq_ok_iff.mp h
    by_cases hname : text = name
    · subst hname
      rcases hcase with ⟨hother, -⟩ | ⟨field, change, hfound, hnew, hread, hrest⟩
      · rw [hfield] at hother
        cases hother
      · rw [hfield] at hfound
        cases hfound
        obtain ⟨content, hcontent, rfl⟩ := map_eq_ok_iff.mp hread
        obtain ⟨hnone, hfinal⟩ := (ih hrest).1 List.mem_cons_self
        have hvalues : valuesOf text (member :: members) = [member.2] := by
          rw [valuesOf_cons_of_eq htext, hnone]
        refine ⟨fun hseen => absurd hseen hnew, fun _ => ?_⟩
        rw [gives_of_singleton hvalues, hfinal, hget]
        exact hcontent
    · have hvalues : valuesOf name (member :: members) = valuesOf name members :=
        valuesOf_cons_of_ne htext hname
      unfold Gives
      rw [hvalues]
      rcases hcase with ⟨-, -, hrest⟩ | ⟨field, change, hfound, -, hread, hrest⟩
      · exact ih hrest
      · have hkept : get (change record) = get record := hkeeps text field hfound hname hread record
        have hrest := ih hrest
        rw [hkept, List.mem_cons] at hrest
        constructor
        · intro hseen
          exact hrest.1 (Or.inr hseen)
        · intro hnew
          exact hrest.2 fun h => h.elim (fun hsame => hname hsame.symm) hnew

/-- **Reading an object.** Members are read where every name can be read, what is no field is well
formed, and every field that is stated is stated once and reads its value. -/
theorem exists_readMembers (hnamed : Named members)
    (hothers : ∀ member ∈ members, member.2.skip = .ok ())
    (hfields : ∀ name field, layout.field? name = some field → valuesOf name members = [] ∨
      name ∉ seen ∧ ∃ value change, valuesOf name members = [value] ∧
        field.read depth value = .ok change) :
    ∃ seen' record', layout.readMembers depth members seen record = .ok (seen', record') := by
  induction members generalizing seen record with
  | nil => exact ⟨seen, record, rfl⟩
  | cons member members ih =>
    obtain ⟨⟨text, htext⟩, hnamed⟩ := List.forall_mem_cons.mp hnamed
    obtain ⟨hskip, hothers⟩ := List.forall_mem_cons.mp hothers
    cases hfound : layout.field? text with
    | none =>
      obtain ⟨seen', record', hrest⟩ := @ih seen record hnamed hothers (by
        intro name field hfield
        have hname : text ≠ name := by
          rintro rfl
          rw [hfield] at hfound
          cases hfound
        rw [← valuesOf_cons_of_ne htext hname]
        exact hfields name field hfield)
      exact ⟨seen', record', readMembers_cons_eq_ok_iff.mpr
        ⟨text, htext, Or.inl ⟨hfound, hskip, hrest⟩⟩⟩
    | some field =>
      obtain hnone | ⟨hnew, value, change, hvalues, hread⟩ := hfields text field hfound
      · rw [valuesOf_cons_of_eq htext] at hnone
        cases hnone
      rw [valuesOf_cons_of_eq htext] at hvalues
      obtain ⟨rfl, hnone⟩ := List.cons.inj hvalues
      obtain ⟨seen', record', hrest⟩ := @ih (text :: seen) (change record) hnamed hothers (by
        intro name other hfield
        by_cases hname : text = name
        · subst hname
          exact Or.inl hnone
        · rw [← valuesOf_cons_of_ne htext hname, List.mem_cons, not_or]
          refine (hfields name other hfield).imp_right ?_
          rintro ⟨hseen, hstated⟩
          exact ⟨⟨fun hsame => hname hsame.symm, hseen⟩, hstated⟩)
      exact ⟨seen', record', readMembers_cons_eq_ok_iff.mpr
        ⟨text, htext, Or.inr ⟨field, change, hfound, hnew, hread, hrest⟩⟩⟩

/-! ## Objects -/

/-- An object is read as a record when its members are read and no field is missing. -/
theorem readObject_eq_ok_iff :
    layout.readObject depth members .closed = .ok record' ↔
      ∃ seen', layout.readMembers depth members [] layout.blank = .ok (seen', record') ∧
        layout.missing? seen' = none := by
  constructor
  · intro h
    rw [readObject] at h
    obtain ⟨⟨seen', found⟩, hread, h⟩ := bind_eq_ok_iff.mp h
    obtain ⟨-, -, h⟩ := bind_eq_ok_iff.mp h
    cases hmissing : layout.missing? seen' with
    | some field =>
      rw [hmissing] at h
      cases h
    | none =>
      rw [hmissing] at h
      cases h
      exact ⟨seen', hread, hmissing⟩
  · rintro ⟨seen', hread, hmissing⟩
    exact readObject_of_readMembers hread hmissing

/-! ## The parts of a record -/

/-- A part of a record, and the field that sets it. -/
structure Part (layout : Layout ρ) where
  -- What the field reads and how it sets the part: the layout has both under the name.
  {Content : Type}
  {presence : Presence}
  {read : Reader Content}
  {put : Content → ρ → ρ}
  name : String
  get : ρ → Content
  field_eq : layout.field? name = some (.of name presence read put)
  get_put : ∀ content record, get (put content record) = content

/-- Members give a part: it is what the only member of its name is read as, or as in the blank
record if there is none. -/
def Part.GivenBy (part : Part layout) (depth : Nat) (members : List Member) (record : ρ) : Prop :=
  Gives members part.name (part.read depth) (part.get layout.blank) (part.get record)

/-- The field that sets a part. -/
def Part.field (part : Part layout) : Field ρ := .of part.name part.presence part.read part.put

/-- Parts into which records split: the fields set them one by one, each field leaves the other parts
alone, and together the parts are the whole record. -/
structure Splits (layout : Layout ρ) (parts : List (Part layout)) : Prop where
  fields_eq : parts.map Part.field = layout.fields
  keeps : ∀ part ∈ parts, ∀ other ∈ parts, other.name ≠ part.name →
    ∀ content record, part.get (other.put content record) = part.get record
  ext : ∀ first second : ρ, (∀ part ∈ parts, part.get first = part.get second) → first = second

namespace Splits

variable {parts : List (Part layout)}

/-- The field with a name sets the part of this name. -/
theorem exists_part (hsplits : Splits layout parts) {name : String} {field : Field ρ}
    (hfield : layout.field? name = some field) :
    ∃ part ∈ parts, part.name = name ∧ part.field = field := by
  have hmem := mem_of_field? hfield
  rw [← hsplits.fields_eq] at hmem
  obtain ⟨part, hpart, rfl⟩ := List.mem_map.mp hmem
  exact ⟨part, hpart, name_of_field? hfield, rfl⟩

/-- A record that is read has in each part what its members give. -/
theorem givenBy_of_readMembers (hsplits : Splits layout parts)
    (h : layout.readMembers depth members [] layout.blank = .ok (seen', record')) :
    ∀ part ∈ parts, part.GivenBy depth members record' := by
  intro part hpart
  have hkeeps : ∀ name field, layout.field? name = some field → name ≠ part.name →
      Keeps field part.get := by
    intro name field hfield hne
    obtain ⟨other, hother, rfl, rfl⟩ := hsplits.exists_part hfield
    exact keeps_of (hsplits.keeps part hpart other hother hne)
  exact (gives_of_readMembers part.field_eq part.get_put hkeeps h).2 List.not_mem_nil

/-- Members give at most one record. -/
theorem unique (hsplits : Splits layout parts) {first second : ρ}
    (hfirst : ∀ part ∈ parts, part.GivenBy depth members first)
    (hsecond : ∀ part ∈ parts, part.GivenBy depth members second) : first = second :=
  hsplits.ext first second fun part hpart => (hfirst part hpart).unique (hsecond part hpart)

/-- Each field for which members give something is not stated, or stated once with a value that it
reads. -/
theorem stated (hsplits : Splits layout parts)
    (h : ∀ part ∈ parts, part.GivenBy depth members record) {name : String} {field : Field ρ}
    (hfield : layout.field? name = some field) :
    valuesOf name members = [] ∨ ∃ value change,
      valuesOf name members = [value] ∧ field.read depth value = .ok change := by
  obtain ⟨part, hpart, rfl, rfl⟩ := hsplits.exists_part hfield
  have hgiven := h part hpart
  rcases hvalues : valuesOf part.name members with _ | ⟨outline, _ | ⟨_, _⟩⟩
  · exact Or.inl rfl
  · rw [Part.GivenBy, gives_of_singleton hvalues] at hgiven
    exact Or.inr ⟨outline, _, rfl, map_eq_ok_iff.mpr ⟨_, hgiven, rfl⟩⟩
  · rw [Part.GivenBy, Gives, hvalues] at hgiven
    cases hgiven

/-- **Reading a record.** An object is read as the record whose parts its members give, if their
names can be read. -/
theorem readObject_eq_ok_iff (hsplits : Splits layout parts)
    (hpresent : ∀ field ∈ layout.fields, field.presence ≠ .required)
    (hskip : ∀ member ∈ members, member.2.skip = .ok ()) :
    layout.readObject depth members .closed = .ok record' ↔
      Named members ∧ ∀ part ∈ parts, part.GivenBy depth members record' := by
  rw [Layout.readObject_eq_ok_iff]
  constructor
  · rintro ⟨seen, h, -⟩
    exact ⟨named_of_readMembers h, hsplits.givenBy_of_readMembers h⟩
  · rintro ⟨hnamed, hgiven⟩
    -- The members are read as some record, and they give no other than this one.
    obtain ⟨seen, found, h⟩ :
        ∃ seen found, layout.readMembers depth members [] layout.blank = .ok (seen, found) :=
      exists_readMembers hnamed hskip fun _ _ hfield =>
        (hsplits.stated hgiven hfield).imp_right fun hstated => ⟨List.not_mem_nil, hstated⟩
    rw [hsplits.unique hgiven (hsplits.givenBy_of_readMembers h)]
    exact ⟨seen, h, missing?_eq_none hpresent seen⟩

end Splits

/-! ## Places -/

/-- Items under the names of the fields in whose places they stand. -/
def placed (fields : List (Field ρ)) (items : List Outline) : List Member :=
  (fields.zip items).map fun place => (.ofText place.1.name, place.2)

/-- The members that an outline states for a record: those of an object, or the items of an array
under the names of the fields. -/
inductive Form (layout : Layout ρ) : Outline → List Member → Prop
  | object (members : List Member) : Form layout (.object members .closed) members
  | array (blank : Bool) {items : List Outline} (fits : items.length ≤ layout.fields.length) :
      Form layout (.array blank items .closed) (placed layout.fields items)

/-- An outline states the members of at most one object. -/
theorem Form.unique {root : Outline} {first second : List Member} (hfirst : Form layout root first)
    (hsecond : Form layout root second) : first = second := by
  cases hfirst with
  | object =>
    cases hsecond
    rfl
  | array =>
    cases hsecond
    rfl

/-- Items of an array that can be passed over can be so under the names of the fields. -/
theorem skip_of_mem_placed {fields : List (Field ρ)} {items : List Outline}
    (h : skipItems items = .ok ()) :
    ∀ member ∈ placed fields items, member.2.skip = .ok () := by
  intro member hmember
  obtain ⟨⟨field, item⟩, hplace, rfl⟩ := List.mem_map.mp hmember
  have hitem : item ∈ items := (List.of_mem_zip hplace).2
  clear hplace hmember
  induction items with
  | nil => cases hitem
  | cons first items ih =>
    obtain ⟨⟨⟩, hfirst, hrest⟩ := bind_eq_ok_iff.mp h
    rcases List.mem_cons.mp hitem with rfl | hitem
    · exact hfirst
    · exact ih hrest hitem

/-- Places are read as the members under the names of their fields. -/
theorem readPlaces_eq_readMembers {fields : List (Field ρ)} {items : List Outline}
    (hlength : items.length ≤ fields.length)
    (hknown : ∀ field ∈ fields, layout.field? field.name = some field)
    (hoptional : ∀ field ∈ fields, field.presence = .optional)
    (hnames : (fields.map Field.name).Nodup) (hseen : ∀ field ∈ fields, field.name ∉ seen)
    (given : Nat) :
    layout.readPlaces depth .closed fields items given record =
      (layout.readMembers depth (placed fields items) seen record).map Prod.snd := by
  induction fields generalizing items seen record given with
  | nil =>
    obtain rfl := List.length_eq_zero_iff.mp (Nat.le_zero.mp hlength)
    rfl
  | cons field fields ih =>
    obtain ⟨hfound, hknown⟩ := List.forall_mem_cons.mp hknown
    obtain ⟨hpresence, hoptional⟩ := List.forall_mem_cons.mp hoptional
    obtain ⟨hfirst, hnames⟩ := List.nodup_cons.mp hnames
    obtain ⟨hnew, hseen⟩ := List.forall_mem_cons.mp hseen
    cases items with
    | nil =>
      have hrest := @ih seen record [] (Nat.zero_le _) hknown hoptional hnames hseen (given + 1)
      have hnone : placed fields [] = [] := by simp [placed]
      rw [hnone] at hrest
      rw [readPlaces, if_pos hpresence]
      exact hrest
    | cons item items =>
      have hlater : ∀ later ∈ fields, later.name ∉ field.name :: seen := by
        intro later hlater
        rw [List.mem_cons, not_or]
        refine ⟨?_, hseen later hlater⟩
        intro hsame
        exact hfirst (List.mem_map.mpr ⟨later, hlater, hsame⟩)
      have hrest := fun change : ρ → ρ =>
        @ih (field.name :: seen) (change record) items (Nat.le_of_succ_le_succ hlength) hknown
          hoptional hnames hlater (given + 1)
      have hmembers : placed (field :: fields) (item :: items) =
          (.ofText field.name, item) :: placed fields items := rfl
      rw [readPlaces, hmembers]
      cases hread : field.read depth item with
      | error cause =>
        have hdecode := Spelling.decode_ofText field.name
        simp [readMembers, hdecode, faulty, Except.mapError, Except.map, hfound, hread, hnew, bind,
          Except.bind]
      | ok change =>
        rw [readMembers_cons layout hfound hread hnew]
        exact hrest change

/-- **Arrays.** A record that is written as an array of no more items than fields is read as the
object with the same values under the names of the fields. -/
theorem read_array_eq_read_object {items : List Outline}
    (hlength : items.length ≤ layout.fields.length)
    (hknown : ∀ field ∈ layout.fields, layout.field? field.name = some field)
    (hoptional : ∀ field ∈ layout.fields, field.presence = .optional)
    (hnames : (layout.fields.map Field.name).Nodup) (blank : Bool) :
    layout.read (depth + 1) (.array blank items .closed) =
      layout.read (depth + 1) (.object (placed layout.fields items) .closed) := by
  have hplaces := @readPlaces_eq_readMembers ρ layout depth [] layout.blank layout.fields items
    hlength hknown hoptional hnames (fun _ _ => List.not_mem_nil) 0
  show layout.readPlaces depth .closed layout.fields items 0 layout.blank =
    layout.readObject depth (placed layout.fields items) .closed
  rw [hplaces]
  cases hread : layout.readMembers depth (placed layout.fields items) [] layout.blank with
  | error cause => simp [readObject, hread, Except.map, bind, Except.bind]
  | ok result =>
    have hmissing : layout.missing? result.1 = none :=
      missing?_eq_none (fun field hfield => by simp [hoptional field hfield]) result.1
    rw [readObject_of_readMembers hread hmissing]
    rfl

/-! ## What holds of every record that is read -/

/-- Items in their places preserve what every field does with them. -/
theorem readPlaces_preserves {P : ρ → Prop} {ending : Ending} {fields : List (Field ρ)}
    {items : List Outline}
    (hfields : ∀ item ∈ items, ∀ field ∈ fields, ∀ ⦃change⦄, field.read depth item = .ok change →
      ∀ record, P record → P (change record))
    {given : Nat} (hrecord : P record)
    (h : layout.readPlaces depth ending fields items given record = .ok record') : P record' := by
  induction fields generalizing items given record with
  | nil =>
    cases items with
    | nil =>
      obtain ⟨-, -, h⟩ := bind_eq_ok_iff.mp h
      cases h
      exact hrecord
    | cons item items => cases h
  | cons field fields ih =>
    cases items with
    | nil =>
      rw [readPlaces] at h
      obtain ⟨-, -, h⟩ := bind_eq_ok_iff.mp h
      split at h
      · exact ih (by simp) hrecord h
      · cases h
    | cons item items =>
      obtain ⟨hitem, hitems⟩ := List.forall_mem_cons.mp hfields
      obtain ⟨change, hchange, h⟩ := bind_eq_ok_iff.mp h
      refine ih (fun later hlater other hother => ?_)
        (hitem field List.mem_cons_self hchange record hrecord) h
      exact hitems later hlater other (List.mem_cons_of_mem _ hother)

/-- Members preserve what every field does with their values. -/
theorem readMembers_preserves {P : ρ → Prop}
    (hfields : ∀ member ∈ members, ∀ field ∈ layout.fields, ∀ ⦃change⦄,
      field.read depth member.2 = .ok change → ∀ record, P record → P (change record))
    (hrecord : P record)
    (h : layout.readMembers depth members seen record = .ok (seen', record')) : P record' := by
  induction members generalizing seen record with
  | nil =>
    cases h
    exact hrecord
  | cons member members ih =>
    obtain ⟨hmember, hmembers⟩ := List.forall_mem_cons.mp hfields
    obtain ⟨text, -, ⟨-, -, h⟩ | ⟨field, change, hfound, -, hchange, h⟩⟩ :=
      readMembers_cons_eq_ok_iff.mp h
    · exact ih hmembers hrecord h
    · exact ih hmembers (hmember field (mem_of_field? hfound) hchange record hrecord) h

/-- What holds of the blank record and is preserved by every field holds of every record that is
read, from an object or an array. -/
theorem read_preserves {P : ρ → Prop}
    (hfields : ∀ field ∈ layout.fields, ∀ ⦃depth value change⦄,
      field.read depth value = .ok change → ∀ record, P record → P (change record))
    (hblank : P layout.blank) {outline : Outline} (h : layout.read depth outline = .ok record') :
    P record' := by
  unfold read at h
  split at h
  · next depth members ending =>
    obtain ⟨⟨seen, record⟩, hread, h⟩ := bind_eq_ok_iff.mp h
    obtain ⟨-, -, h⟩ := bind_eq_ok_iff.mp h
    split at h
    · cases h
    · cases h
      exact readMembers_preserves (fun _ _ field hfield _ hchange => hfields field hfield hchange)
        hblank hread
  · next depth _ items ending =>
    exact readPlaces_preserves (fun _ _ field hfield _ hchange => hfields field hfield hchange)
      hblank h
  · cases h
  · cases h
  · cases h
  · cases h
  · exact absurd h Reader.reject_ne_ok

end Layout

end TxGateway.Json
