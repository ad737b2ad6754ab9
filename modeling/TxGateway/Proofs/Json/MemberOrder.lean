import TxGateway.Proofs.Json.Scanned
/-!
# The order of members

Two objects are shuffles of one another (`Layout.Shuffled`) when one comes from the other by
permuting members, and by adding or leaving out members that are no fields of a record. A shuffle of
an object that some text spells is spelled by a text (`Layout.Shuffled.spelledMember`), and it
states the same values under the names of the fields, in another order
(`Layout.Shuffled.valuesOf_perm`). Since a field that is given has one value at most, it gives the
same to the record (`Gives.of_perm`), and the record is read the same
(`Layout.Splits.readObject_shuffled`).
-/

namespace TxGateway.Json

open Fallible

/-! ## Objects that a text spells -/

/-- A member that a text spells. -/
def SpelledMember (member : Member) : Prop := ∃ text, SpellsMember text member

/-- A member that a text spells has a value that can be passed over. -/
theorem SpelledMember.skip_eq {member : Member} (h : SpelledMember member) :
    member.2.skip = .ok () := by
  obtain ⟨text, ⟨-, -, -, content⟩⟩ := h
  exact content.skip_eq

/-- A member is spelled when its name is well formed and its value is spelled. -/
theorem spelledMember_iff {name : Spelling} {value : Outline} :
    SpelledMember (name, value) ↔ name.WellFormed ∧ ∃ text, Spells text value := by
  constructor
  · rintro ⟨-, ⟨valid, -, -, content⟩⟩
    exact ⟨valid, _, content⟩
  · rintro ⟨hname, text, hvalue⟩
    exact ⟨_, .member hname space_nil space_nil hvalue⟩

/-- Members behind a member are spelled one by one. -/
theorem spelledMember_of_spellsMembers {text : List Char} {members : List Member}
    (h : SpellsMembers text members) : ∀ member ∈ members, SpelledMember member := by
  induction members generalizing text with
  | nil =>
    intro member hmember
    cases hmember
  | cons first members ih =>
    cases h with
    | next _ _ head tail => exact List.forall_mem_cons.mpr ⟨⟨_, head⟩, ih tail⟩

/-- Members that are spelled one by one are spelled behind a member. -/
theorem exists_spellsMembers {members : List Member}
    (h : ∀ member ∈ members, SpelledMember member) : ∃ text, SpellsMembers text members := by
  induction members with
  | nil => exact ⟨_, .close space_nil⟩
  | cons first members ih =>
    obtain ⟨⟨_, hfirst⟩, hmembers⟩ := List.forall_mem_cons.mp h
    obtain ⟨_, hrest⟩ := ih hmembers
    exact ⟨_, .next space_nil space_nil hfirst hrest⟩

/-- An object is spelled by a text exactly when each of its members is. -/
theorem exists_spells_object_iff {members : List Member} :
    (∃ text, Spells text (.object members .closed)) ↔
      ∀ member ∈ members, SpelledMember member := by
  constructor
  · rintro ⟨text, h⟩
    cases h with
    | emptyObject =>
      intro member hmember
      cases hmember
    | object _ head tail =>
      exact List.forall_mem_cons.mpr ⟨⟨_, head⟩, spelledMember_of_spellsMembers tail⟩
  · intro h
    cases members with
    | nil => exact ⟨_, .emptyObject space_nil⟩
    | cons first members =>
      obtain ⟨⟨_, hfirst⟩, hmembers⟩ := List.forall_mem_cons.mp h
      obtain ⟨_, hrest⟩ := exists_spellsMembers hmembers
      exact ⟨_, .object space_nil hfirst hrest⟩

/-- The members of an object that is the value of a text are spelled. -/
theorem IsText.spelledMember {text : List Char} {members : List Member}
    (h : IsText text (.object members .closed)) : ∀ member ∈ members, SpelledMember member := by
  obtain ⟨-, -, hvalue⟩ := h
  exact exists_spells_object_iff.mp ⟨_, hvalue⟩

/-- The items behind an item are spelled one by one. -/
theorem exists_spells_of_spellsItems {text : List Char} {items : List Outline}
    (h : SpellsItems text items) : ∀ item ∈ items, ∃ text, Spells text item := by
  induction items generalizing text with
  | nil =>
    intro item hitem
    cases hitem
  | cons first items ih =>
    cases h with
    | next _ _ head tail => exact List.forall_mem_cons.mpr ⟨⟨_, head⟩, ih tail⟩

/-- The values that a text states for a record are spelled, in an object or in an array. -/
theorem IsText.exists_spells_of_form {ρ : Type} {layout : Layout ρ} {text : List Char}
    {root : Outline} {members : List Member} (h : IsText text root)
    (hform : Layout.Form layout root members) :
    ∀ member ∈ members, ∃ text, Spells text member.2 := by
  cases hform with
  | object =>
    intro member hmember
    exact (spelledMember_iff.mp (h.spelledMember member hmember)).2
  | @array blank items =>
    have hitems : ∀ item ∈ items, ∃ text, Spells text item := by
      obtain ⟨-, -, hvalue⟩ := h
      cases hvalue with
      | emptyArray => simp
      | array _ head tail =>
        exact List.forall_mem_cons.mpr ⟨⟨_, head⟩, exists_spells_of_spellsItems tail⟩
    intro member hmember
    obtain ⟨place, hplace, rfl⟩ := List.mem_map.mp hmember
    exact hitems place.2 (List.of_mem_zip hplace).2

/-! ## Values in another order -/

/-- A value under a name is that of a member. -/
theorem exists_mem_of_mem_valuesOf {name : String} {members : List Member} {value : Outline}
    (h : value ∈ valuesOf name members) : ∃ member ∈ members, member.2 = value := by
  induction members with
  | nil => cases h
  | cons member members ih =>
    rw [valuesOf] at h
    split at h
    · rcases List.mem_cons.mp h with rfl | h
      · exact ⟨member, List.mem_cons_self, rfl⟩
      · obtain ⟨found, hfound, hvalue⟩ := ih h
        exact ⟨found, List.mem_cons_of_mem _ hfound, hvalue⟩
    · obtain ⟨found, hfound, hvalue⟩ := ih h
      exact ⟨found, List.mem_cons_of_mem _ hfound, hvalue⟩

/-- Values under a name stand one after the other, as their members do. -/
theorem valuesOf_append (name : String) (before after : List Member) :
    valuesOf name (before ++ after) = valuesOf name before ++ valuesOf name after := by
  induction before with
  | nil => rfl
  | cons member before ih =>
    rw [List.cons_append, valuesOf, valuesOf, ih]
    split <;> rfl

section Insertion

variable {name other : String} {spelling : Spelling} {value : Outline} {before after : List Member}

/-- A member of the name has its value among those under the name. -/
theorem valuesOf_insert_of_eq (h : spelling.decode = .ok name) :
    valuesOf name (before ++ (spelling, value) :: after) =
      valuesOf name before ++ value :: valuesOf name after := by
  rw [valuesOf_append, valuesOf_cons_of_eq h]

/-- A member of another name has no value under the name. -/
theorem valuesOf_insert_of_ne (h : spelling.decode = .ok other) (hne : other ≠ name) :
    valuesOf name (before ++ (spelling, value) :: after) = valuesOf name (before ++ after) := by
  rw [valuesOf_append, valuesOf_append, valuesOf_cons_of_ne h hne]

end Insertion

/-- A permutation of members permutes the values under each name. -/
theorem valuesOf_perm (name : String) {members others : List Member} (h : members.Perm others) :
    (valuesOf name members).Perm (valuesOf name others) := by
  induction h with
  | nil => exact .refl _
  | cons member _ ih =>
    rw [valuesOf, valuesOf]
    split
    · exact ih.cons _
    · exact ih
  | swap first second members =>
    simp only [valuesOf]
    split
    · split
      · exact .swap _ _ _
      · exact .refl _
    · exact .refl _
  | trans _ _ ihfirst ihsecond => exact ihfirst.trans ihsecond

/-- An object gives the same when the values under the name stand in another order: there is one at
most. -/
theorem Gives.of_perm {α : Type} {members others : List Member} {name : String}
    {read : Outline → Except ReadError α} {default content : α}
    (h : Gives members name read default content)
    (hperm : (valuesOf name members).Perm (valuesOf name others)) :
    Gives others name read default content := by
  rcases hvalues : valuesOf name members with _ | ⟨value, _ | ⟨_, _⟩⟩
  · rw [hvalues] at hperm
    rw [gives_of_nil hvalues] at h
    exact (gives_of_nil hperm.nil_eq.symm).mpr h
  · rw [hvalues] at hperm
    rw [gives_of_singleton hvalues] at h
    exact (gives_of_singleton hperm.singleton_eq.symm).mpr h
  · rw [Gives, hvalues] at h
    cases h

section Change

variable {α : Type} {members before after : List Member} {name other : String}
  {spelling : Spelling} {value : Outline} {default content : α}

/-- A member of another name changes nothing in what an object gives. -/
theorem gives_insert_of_ne {read : Outline → Except ReadError α} (h : spelling.decode = .ok other)
    (hne : other ≠ name) :
    Gives (before ++ (spelling, value) :: after) name read default content ↔
      Gives (before ++ after) name read default content := by
  unfold Gives
  rw [valuesOf_insert_of_ne h hne]

/-- Where `null` is read as the default, an explicit `null` gives what no member gives. -/
theorem gives_insert_null {read : Outline → Except ReadError α} (hnull : read .null = .ok default)
    (h : spelling.decode = .ok other) (hunset : valuesOf other (before ++ after) = []) :
    Gives (before ++ (spelling, .null) :: after) name read default content ↔
      Gives (before ++ after) name read default content := by
  by_cases hname : other = name
  · subst hname
    have hvalues : valuesOf other (before ++ (spelling, .null) :: after) = [.null] := by
      rw [valuesOf_append] at hunset
      obtain ⟨hbefore, hafter⟩ := List.append_eq_nil_iff.mp hunset
      rw [valuesOf_insert_of_eq h, hbefore, hafter, List.nil_append]
    rw [gives_of_singleton hvalues, gives_of_nil hunset, hnull, Except.ok.injEq, eq_comm]
  · exact gives_insert_of_ne h hname

/-- A value gives the same as another that is read as the same. -/
theorem gives_replace {read : Outline → Except ReadError α} {value' : Outline}
    (hread : ∀ content, read value = .ok content ↔ read value' = .ok content) :
    Gives (before ++ (spelling, value) :: after) name read default content ↔
      Gives (before ++ (spelling, value') :: after) name read default content := by
  by_cases hname : spelling.decode = .ok name
  · unfold Gives
    rw [valuesOf_insert_of_eq hname, valuesOf_insert_of_eq hname]
    -- The value is the only one of the name, or both objects give nothing.
    rcases valuesOf name before with _ | ⟨first, _ | ⟨_, _⟩⟩
    · cases valuesOf name after with
      | nil => exact hread content
      | cons => exact Iff.rfl
    · exact Iff.rfl
    · exact Iff.rfl
  · have hvalues : ∀ value, valuesOf name (before ++ (spelling, value) :: after) =
        valuesOf name (before ++ after) := by
      intro value
      rw [valuesOf_append, valuesOf, if_neg hname, valuesOf_append]
    unfold Gives
    rw [hvalues, hvalues]

end Change

/-! ## Shuffles -/

namespace Layout

variable {ρ : Type} {layout : Layout ρ} {members others : List Member}

/-- The names of the fields of a record. -/
def names (layout : Layout ρ) : List String := layout.fields.map Field.name

/-- Each of the names has a field. -/
theorem exists_field?_of_mem {name : String} (h : name ∈ layout.names) :
    ∃ field, layout.field? name = some field := by
  obtain ⟨field, hfield, rfl⟩ := List.mem_map.mp h
  cases hfound : layout.field? field.name with
  | some found => exact ⟨found, rfl⟩
  | none =>
    unfold field? at hfound
    have hne := List.find?_eq_none.mp hfound field hfield
    simp at hne

/-- Two objects whose members differ in their order and in members that are no fields. -/
inductive Shuffled (layout : Layout ρ) : List Member → List Member → Prop
  | perm {members others : List Member} (order : members.Perm others) :
      Shuffled layout members others
  | other {before after : List Member} {name : Spelling} {text : String} {value : Outline}
      (spelled : SpelledMember (name, value)) (decodes : name.decode = .ok text)
      (unknown : text ∉ layout.names) :
      Shuffled layout (before ++ after) (before ++ (name, value) :: after)
  | symm {members others : List Member} (shuffled : Shuffled layout members others) :
      Shuffled layout others members
  | trans {members between others : List Member} (first : Shuffled layout members between)
      (second : Shuffled layout between others) : Shuffled layout members others

/-- What holds of every member of one object holds of every member of the other, if it holds of
members that are no fields. -/
theorem Shuffled.forall_mem_iff {P : Member → Prop}
    (hother : ∀ {name value text}, SpelledMember (name, value) → name.decode = .ok text →
      P (name, value))
    (h : Shuffled layout members others) :
    (∀ member ∈ members, P member) ↔ ∀ member ∈ others, P member := by
  induction h with
  | perm order => exact forall_congr' fun member => by rw [order.mem_iff]
  | other spelled decodes =>
    simp only [List.forall_mem_append, List.forall_mem_cons, hother spelled decodes, true_and]
  | symm _ ih => exact ih.symm
  | trans _ _ ihfirst ihsecond => exact ihfirst.trans ihsecond

/-- Shuffles of an object that a text spells are spelled by texts. -/
theorem Shuffled.spelledMember (h : Shuffled layout members others)
    (hmembers : ∀ member ∈ members, SpelledMember member) :
    ∀ member ∈ others, SpelledMember member :=
  (h.forall_mem_iff fun spelled _ => spelled).mp hmembers

/-- Shuffles keep names that can be read. -/
theorem Shuffled.named (h : Shuffled layout members others) (hnamed : Named members) :
    Named others :=
  (h.forall_mem_iff fun _ decodes => ⟨_, decodes⟩).mp hnamed

/-- Shuffles state the same values for each field, in some order. -/
theorem Shuffled.valuesOf_perm (h : Shuffled layout members others) {name : String}
    (hname : name ∈ layout.names) : (valuesOf name members).Perm (valuesOf name others) := by
  induction h with
  | perm order => exact Json.valuesOf_perm name order
  | other _ decodes unknown =>
    have hne := ne_of_mem_of_not_mem hname unknown
    rw [valuesOf_insert_of_ne decodes hne.symm]
  | symm _ ih => exact ih.symm
  | trans _ _ ihfirst ihsecond => exact ihfirst.trans ihsecond

variable {depth : Nat} {seen seen' : List String} {record record' : ρ}

/-- The name of a part is that of a field. -/
theorem Part.name_mem (part : Part layout) : part.name ∈ layout.names :=
  List.mem_map.mpr ⟨_, mem_of_field? part.field_eq, rfl⟩

/-- Shuffles give the same for each part of a record. -/
theorem Part.GivenBy.shuffled {part : Part layout} (h : part.GivenBy depth members record)
    (hshuffle : Shuffled layout members others) : part.GivenBy depth others record :=
  h.of_perm (hshuffle.valuesOf_perm part.name_mem)

/-- **Shuffles.** A shuffle of an object that is read is read as the same record. -/
theorem Splits.readObject_shuffled {parts : List (Part layout)} (hsplits : Splits layout parts)
    (hpresent : ∀ field ∈ layout.fields, field.presence ≠ .required)
    (h : Shuffled layout members others) (hmembers : ∀ member ∈ members, SpelledMember member)
    (hread : layout.readObject depth members .closed = .ok record) :
    layout.readObject depth others .closed = .ok record := by
  -- Both objects are read by what their members give for the parts, and that is the same.
  have hothers := h.spelledMember hmembers
  rw [hsplits.readObject_eq_ok_iff hpresent fun member hmember => (hmembers member hmember).skip_eq]
    at hread
  rw [hsplits.readObject_eq_ok_iff hpresent fun member hmember => (hothers member hmember).skip_eq]
  exact ⟨h.named hread.1, fun part hpart => (hread.2 part hpart).shuffled h⟩

/-! ## One member more -/

variable {before after : List Member} {spelling : Spelling} {name : String} {value : Outline}
  {field : Field ρ}

end Layout

end TxGateway.Json
