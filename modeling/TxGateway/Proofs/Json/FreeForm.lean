import TxGateway.Proofs.Json.MemberOrder
import TxGateway.Proofs.Json.NameOrder
import TxGateway.Proofs.Json.NormalLiteral
/-!
# Free-form values

What a reader makes of the values that the grammar allows. Strings and names may be spelled by
escapes that stand for no text (`Outline.Decodable` excludes them), and one name is kept for
numerals (`Outline.Unreserved`).

* `Spells.exists_read` : without the two, a value that is not nested too deep is read;
* `Spells.unreserved_of_read` : a value without the name is read as one without it;
* `Spells.readable_of_read` : every value that is read without this name can be printed and read
  again.
-/

namespace TxGateway.Json

open Fallible

mutual

/-- A value whose strings and names stand for texts. -/
def Outline.Decodable : Outline → Prop
  | .null | .bool _ | .number _ | .misnamed _ | .broken _ => True
  | .string spelling => ∃ text, spelling.decode = .ok text
  | .array _ items _ => DecodableItems items
  | .object members _ => DecodableMembers members

/-- Items whose strings and names stand for texts. -/
def DecodableItems : List Outline → Prop
  | [] => True
  | item :: items => item.Decodable ∧ DecodableItems items

/-- Members whose strings and names stand for texts. -/
def DecodableMembers : List (Spelling × Outline) → Prop
  | [] => True
  | (name, value) :: members =>
    (∃ text, name.decode = .ok text) ∧ value.Decodable ∧ DecodableMembers members

end

mutual

/-- A value in whose text no object has a member with the name that is kept for numerals. -/
def Outline.Unreserved : Outline → Prop
  | .null | .bool _ | .number _ | .string _ | .misnamed _ | .broken _ => True
  | .array _ items _ => UnreservedOutlines items
  | .object members _ => UnreservedNames members

/-- Items without the name that is kept for numerals. -/
def UnreservedOutlines : List Outline → Prop
  | [] => True
  | item :: items => item.Unreserved ∧ UnreservedOutlines items

/-- Members without the name that is kept for numerals. -/
def UnreservedNames : List (Spelling × Outline) → Prop
  | [] => True
  | (name, value) :: members =>
    name.decode ≠ .ok numeralName ∧ value.Unreserved ∧ UnreservedNames members

end

mutual

/-- A value in which no object has a member with the name that is kept for numerals. -/
def Unreserved : Json → Prop
  | .null | .bool _ | .number _ | .string _ => True
  | .array items => UnreservedItems items
  | .object members => UnreservedMembers members

/-- Items without the name that is kept for numerals. -/
def UnreservedItems : List Json → Prop
  | [] => True
  | item :: items => Unreserved item ∧ UnreservedItems items

/-- Members without the name that is kept for numerals. -/
def UnreservedMembers : List (String × Json) → Prop
  | [] => True
  | (name, value) :: members => name ≠ numeralName ∧ Unreserved value ∧ UnreservedMembers members

end

/-! ## One step of a reader -/

/-- A string is read as the text that it stands for. -/
theorem read_string {depth : Nat} {spelling : Spelling} {value : Json} :
    (Outline.string spelling).read depth = .ok value ↔
      ∃ text, spelling.decode = .ok text ∧ .string text = value := by
  have hread : (Outline.string spelling).read depth = (faulty spelling.decode).map Json.string := by
    cases depth <;> rfl
  rw [hread, map_eq_ok_iff]
  simp only [faulty, mapError_eq_ok_iff]

/-- A number is read as the normal spelling of its literal. -/
theorem read_number (depth : Nat) (literal : List Char) :
    (Outline.number literal).read depth = .ok (.number (String.ofList (Numeral.normal literal))) := by
  cases depth <;> rfl

/-- An array is read item by item, inside one more container. -/
theorem read_array {depth : Nat} {blank : Bool} {items : List Outline} {value : Json} :
    (Outline.array blank items .closed).read (depth + 1) = .ok value ↔
      ∃ values, readItems depth items = .ok values ∧ .array values = value := by
  show (readItems depth items >>= fun values =>
    faulty Ending.closed.close >>= fun _ => Except.ok (Json.array values)) = _ ↔ _
  rw [bind_eq_ok_iff]
  refine exists_congr fun values => and_congr_right fun _ => ?_
  show Except.ok _ = Except.ok _ ↔ _
  rw [Except.ok.injEq]

/-- Items are read one by one. -/
theorem readItems_cons {depth : Nat} {item : Outline} {items : List Outline} {values : List Json} :
    readItems depth (item :: items) = .ok values ↔
      ∃ head tail, item.read depth = .ok head ∧ readItems depth items = .ok tail ∧
        head :: tail = values := by
  rw [readItems, bind_eq_ok_iff]
  constructor
  · rintro ⟨head, hhead, h⟩
    obtain ⟨tail, htail, h⟩ := bind_eq_ok_iff.mp h
    exact ⟨head, tail, hhead, htail, Except.ok.inj h⟩
  · rintro ⟨head, tail, hhead, htail, rfl⟩
    exact ⟨head, hhead, bind_eq_ok_iff.mpr ⟨tail, htail, rfl⟩⟩

/-- Members are read one by one, each put in among those before. -/
theorem readMembers_cons {depth : Nat} {name : Spelling} {value : Outline} {members : List Member}
    {before after : List (String × Json)} :
    readMembers depth ((name, value) :: members) before = .ok after ↔
      ∃ text content, name.decode = .ok text ∧ value.read depth = .ok content ∧
        readMembers depth members (insert text content before) = .ok after := by
  rw [readMembers, bind_eq_ok_iff]
  constructor
  · rintro ⟨text, hname, h⟩
    obtain ⟨content, hvalue, h⟩ := bind_eq_ok_iff.mp h
    exact ⟨text, content, mapError_eq_ok_iff.mp hname, hvalue, h⟩
  · rintro ⟨text, content, hname, hvalue, h⟩
    exact ⟨text, mapError_eq_ok_iff.mpr hname, bind_eq_ok_iff.mpr ⟨content, hvalue, h⟩⟩

/-- An object is read member by member, if its first name is not the one that is kept for numerals;
under this name it is a numeral. -/
theorem read_object {depth : Nat} {name : Spelling} {head : Outline} {members : List Member}
    {value : Json} :
    (Outline.object ((name, head) :: members) .closed).read (depth + 1) = .ok value ↔
      ∃ text, name.decode = .ok text ∧
        (text = numeralName ∧ readNumeral head = .ok value ∧ members = [] ∨
          text ≠ numeralName ∧ ∃ values,
            readMembers depth ((name, head) :: members) [] = .ok values ∧ .object values = value) := by
  rw [Outline.read, bind_eq_ok_iff]
  refine exists_congr fun text => ?_
  rw [faulty, mapError_eq_ok_iff]
  refine and_congr_right fun hname => ?_
  by_cases hreserved : text = numeralName
  · simp only [hreserved, if_true, ne_eq, not_true, false_and, or_false, true_and]
    constructor
    · intro h
      obtain ⟨numeral, hnumeral, h⟩ := bind_eq_ok_iff.mp h
      obtain ⟨⟨⟩, hclose, h⟩ := bind_eq_ok_iff.mp h
      cases h
      exact ⟨hnumeral, (eq_of_closeNumeral hclose).1⟩
    · rintro ⟨hnumeral, rfl⟩
      exact bind_eq_ok_iff.mpr ⟨value, hnumeral, rfl⟩
  · simp only [hreserved, if_false, false_and, false_or, ne_eq, not_false_iff, true_and,
      readMembers_cons]
    constructor
    · intro h
      obtain ⟨first, hfirst, h⟩ := bind_eq_ok_iff.mp h
      obtain ⟨values, hvalues, h⟩ := bind_eq_ok_iff.mp h
      obtain ⟨⟨⟩, -, h⟩ := bind_eq_ok_iff.mp h
      exact ⟨values, ⟨text, first, hname, hfirst, hvalues⟩, Except.ok.inj h⟩
    · rintro ⟨values, ⟨other, first, hother, hfirst, hvalues⟩, rfl⟩
      rw [hname] at hother
      cases hother
      exact bind_eq_ok_iff.mpr ⟨first, hfirst, bind_eq_ok_iff.mpr ⟨values, hvalues, rfl⟩⟩

/-- An array that is read is inside one more container. -/
theorem of_read_array {depth : Nat} {blank : Bool} {items : List Outline} {value : Json}
    (h : (Outline.array blank items .closed).read depth = .ok value) :
    ∃ inner values, depth = inner + 1 ∧ readItems inner items = .ok values ∧
      .array values = value := by
  cases depth with
  | zero => cases h
  | succ depth =>
    obtain ⟨values, hitems, hvalue⟩ := read_array.mp h
    exact ⟨depth, values, rfl, hitems, hvalue⟩

/-- An object that is read is inside one more container. -/
theorem exists_depth_of_read_object {depth : Nat} {members : List Member} {value : Json}
    (h : (Outline.object members .closed).read depth = .ok value) :
    ∃ inner, depth = inner + 1 := by
  cases depth with
  | zero => cases h
  | succ depth => exact ⟨depth, rfl⟩

/-! ## What is read -/

mutual

/-- **Reading succeeds.** A value that is not nested too deep is read, if its strings and names stand
for texts and no name is the one that is kept for numerals. -/
theorem Spells.exists_read {text : List Char} {value : Outline} :
    Spells text value → value.Decodable → value.Unreserved → ∀ {depth}, value.nesting ≤ depth →
      ∃ content, value.read depth = .ok content
  | .null, _, _, depth, _ | .true, _, _, depth, _ | .false, _, _, depth, _ => by
    cases depth <;> exact ⟨_, rfl⟩
  | .number _, _, _, depth, _ => ⟨_, read_number depth _⟩
  | .string _, ⟨_, hdecode⟩, _, _, _ => ⟨_, read_string.mpr ⟨_, hdecode, rfl⟩⟩
  | .emptyArray _, _, _, depth, hdepth => by
    obtain ⟨depth, rfl⟩ := Nat.exists_eq_add_of_le' hdepth
    exact ⟨_, rfl⟩
  | .array _ head tail, hdecodable, hfree, depth, hdepth => by
    obtain ⟨depth, rfl⟩ := Nat.exists_eq_add_of_le' (Nat.le_trans (Nat.le_add_left 1 _) hdepth)
    obtain ⟨hfirst, hrest⟩ := Nat.max_le.mp (Nat.le_of_succ_le_succ hdepth)
    obtain ⟨first, hfirst⟩ := head.exists_read hdecodable.1 hfree.1 hfirst
    obtain ⟨rest, hrest⟩ := tail.exists_read hdecodable.2 hfree.2 hrest
    exact ⟨_, read_array.mpr ⟨_, readItems_cons.mpr ⟨_, _, hfirst, hrest, rfl⟩, rfl⟩⟩
  | .emptyObject _, _, _, depth, hdepth => by
    obtain ⟨depth, rfl⟩ := Nat.exists_eq_add_of_le' hdepth
    exact ⟨_, rfl⟩
  | @Spells.object _ _ _ (_, _) _ _ head tail, ⟨⟨name, hname⟩, hvalue, hothers⟩, hfree, depth,
      hdepth => by
    obtain ⟨depth, rfl⟩ := Nat.exists_eq_add_of_le' (Nat.le_trans (Nat.le_add_left 1 _) hdepth)
    obtain ⟨hfirst, hrest⟩ := Nat.max_le.mp (Nat.le_of_succ_le_succ hdepth)
    obtain ⟨first, hfirst⟩ := head.exists_read hvalue hfree.2.1 hfirst
    obtain ⟨rest, hrest⟩ := tail.exists_read hothers hfree.2.2 hrest (insert name first [])
    have hreserved : name ≠ numeralName := by
      rintro rfl
      exact hfree.1 hname
    exact ⟨_, read_object.mpr ⟨name, hname, Or.inr ⟨hreserved, rest,
      readMembers_cons.mpr ⟨_, _, hname, hfirst, hrest⟩, rfl⟩⟩⟩

/-- Further items are read. -/
theorem SpellsItems.exists_read {text : List Char} {items : List Outline} :
    SpellsItems text items → DecodableItems items → UnreservedOutlines items →
      ∀ {depth}, nestingItems items ≤ depth → ∃ values, readItems depth items = .ok values
  | .close _, _, _, _, _ => ⟨[], rfl⟩
  | .next _ _ head tail, hdecodable, hfree, _, hdepth => by
    obtain ⟨hfirst, hrest⟩ := Nat.max_le.mp hdepth
    obtain ⟨first, hfirst⟩ := head.exists_read hdecodable.1 hfree.1 hfirst
    obtain ⟨rest, hrest⟩ := tail.exists_read hdecodable.2 hfree.2 hrest
    exact ⟨_, readItems_cons.mpr ⟨_, _, hfirst, hrest, rfl⟩⟩

/-- The value of a member is read. -/
theorem SpellsMember.exists_read {text : List Char} {member : Member} :
    SpellsMember text member → member.2.Decodable → member.2.Unreserved →
      ∀ {depth}, member.2.nesting ≤ depth → ∃ content, member.2.read depth = .ok content
  | .member _ _ _ content, hdecodable, hfree, _, hdepth =>
    content.exists_read hdecodable hfree hdepth

/-- Further members are read. -/
theorem SpellsMembers.exists_read {text : List Char} {members : List Member} :
    SpellsMembers text members → DecodableMembers members → UnreservedNames members →
      ∀ {depth}, nestingMembers members ≤ depth →
        ∀ before, ∃ values, readMembers depth members before = .ok values
  | .close _, _, _, _, _, before => ⟨before, rfl⟩
  | @SpellsMembers.next _ _ _ _ (_, _) _ _ _ head tail, ⟨⟨name, hname⟩, hvalue, hothers⟩, hfree, _,
      hdepth, before => by
    obtain ⟨hfirst, hrest⟩ := Nat.max_le.mp hdepth
    obtain ⟨first, hfirst⟩ := head.exists_read hvalue hfree.2.1 hfirst
    obtain ⟨rest, hrest⟩ := tail.exists_read hothers hfree.2.2 hrest (insert name first before)
    exact ⟨_, readMembers_cons.mpr ⟨_, _, hname, hfirst, hrest⟩⟩

end

/-- Members are free of the name that is kept for numerals one by one. -/
theorem unreservedMembers_iff {members : List (String × Json)} :
    UnreservedMembers members ↔
      ∀ member ∈ members, member.1 ≠ numeralName ∧ member.2.Unreserved := by
  induction members with
  | nil => simp [UnreservedMembers]
  | cons member members ih =>
    obtain ⟨name, value⟩ := member
    rw [UnreservedMembers, ih, List.forall_mem_cons, and_assoc]

/-- Members are readable when they are in order and readable one by one. -/
theorem readableMembers_iff {depth : Nat} {members : List (String × Json)} :
    ReadableMembers depth members ↔ members.Pairwise Precedes ∧
      ∀ member ∈ members, member.1 ≠ numeralName ∧ Readable depth member.2 := by
  induction members with
  | nil => simp [ReadableMembers]
  | cons member members ih =>
    obtain ⟨name, value⟩ := member
    rw [ReadableMembers, ih, List.pairwise_cons, List.forall_mem_cons]
    constructor
    · rintro ⟨hname, hvalue, hfirst, horder, hmembers⟩
      exact ⟨⟨hfirst, horder⟩, ⟨hname, hvalue⟩, hmembers⟩
    · rintro ⟨⟨hfirst, horder⟩, ⟨hname, hvalue⟩, hmembers⟩
      exact ⟨hname, hvalue, hfirst, horder, hmembers⟩

/-- What holds of the members before and of those that are put in holds of all that are read. -/
theorem forall_mem_of_readMembers {P : String × Json → Prop} {depth : Nat} {members : List Member}
    {before after : List (String × Json)} (hbefore : ∀ member ∈ before, P member)
    (hmembers : ∀ member ∈ members, ∀ text content, member.1.decode = .ok text →
      member.2.read depth = .ok content → P (text, content))
    (h : readMembers depth members before = .ok after) : ∀ member ∈ after, P member := by
  induction members generalizing before with
  | nil =>
    cases h
    exact hbefore
  | cons member members ih =>
    obtain ⟨hfirst, hrest⟩ := List.forall_mem_cons.mp hmembers
    obtain ⟨text, content, hname, hvalue, h⟩ := readMembers_cons.mp h
    refine ih (fun found hfound => ?_) hrest h
    rcases mem_insert hfound with rfl | hfound
    · exact hfirst text content hname hvalue
    · exact hbefore found hfound

/-- A literal that is kept in its normal spelling is readable. -/
theorem readable_normal {literal : List Char} (h : Numeral.check literal = .ok ()) (depth : Nat) :
    Readable depth (.number (String.ofList (Numeral.normal literal))) := by
  have hreadable : Numeral.check (Numeral.normal literal) = .ok () ∧
      Numeral.normal (Numeral.normal literal) = Numeral.normal literal :=
    ⟨Numeral.check_normal h, Numeral.normal_normal literal⟩
  cases depth <;> simpa only [Readable, String.toList_ofList] using hreadable

/-- A numeral that is written as an object is kept in the normal spelling of its literal. -/
theorem exists_literal_of_readNumeral {head : Outline} {value : Json}
    (h : readNumeral head = .ok value) : ∃ literal, Numeral.check literal = .ok () ∧
      value = .number (String.ofList (Numeral.normal literal)) := by
  cases head with
  | string spelling =>
    obtain ⟨text, -, h⟩ := bind_eq_ok_iff.mp h
    split at h
    · next hcheck =>
      cases h
      exact ⟨text.toList, hcheck, rfl⟩
    · cases h
  | null | bool | number | array | object | misnamed | broken =>
    exact absurd h Reader.reject_ne_ok

/-- A string is readable at any depth. -/
theorem readable_string (depth : Nat) (text : String) : Readable depth (.string text) := by
  cases depth <;> trivial

mutual

/-- **Values that are read.** A value that is read is readable, unless it has a member with the name
that is kept for numerals. -/
theorem Spells.readable_of_read {text : List Char} {value : Outline} :
    Spells text value → ∀ {depth content}, value.read depth = .ok content → content.Unreserved →
      Readable depth content
  | .null, depth, _, h, _ | .true, depth, _, h, _ | .false, depth, _, h, _ => by
    cases depth <;> cases h <;> trivial
  | .number valid, depth, _, h, _ => by
    rw [read_number] at h
    cases h
    exact readable_normal valid depth
  | .string _, depth, _, h, _ => by
    obtain ⟨text, -, rfl⟩ := read_string.mp h
    exact readable_string depth text
  | .emptyArray _, _, _, h, _ => by
    obtain ⟨depth, values, rfl, hitems, rfl⟩ := of_read_array h
    cases hitems
    trivial
  | .array _ head tail, _, _, h, hfree => by
    obtain ⟨depth, values, rfl, hitems, rfl⟩ := of_read_array h
    obtain ⟨first, rest, hfirst, hrest, rfl⟩ := readItems_cons.mp hitems
    exact ⟨head.readable_of_read hfirst hfree.1, tail.readable_of_read hrest hfree.2⟩
  | .emptyObject _, _, _, h, _ => by
    obtain ⟨depth, rfl⟩ := exists_depth_of_read_object h
    cases h
    trivial
  | @Spells.object _ _ _ (name, first) _ _ head tail, _, _, h, hfree => by
    obtain ⟨depth, rfl⟩ := exists_depth_of_read_object h
    obtain ⟨text, hname, ⟨-, hnumeral, -⟩ | ⟨-, values, hvalues, rfl⟩⟩ := read_object.mp h
    · obtain ⟨literal, hcheck, rfl⟩ := exists_literal_of_readNumeral hnumeral
      exact readable_normal hcheck (depth + 1)
    · have hfree := unreservedMembers_iff.mp hfree
      have horder := pairwise_of_readMembers List.Pairwise.nil hvalues
      -- A member that is replaced by a later one may be anything; those that stay are readable.
      have hmembers : ∀ member ∈ values, member.2.Unreserved → Readable depth member.2 :=
        forall_mem_of_readMembers (by simp)
          (List.forall_mem_cons.mpr ⟨fun _ _ _ hread => head.readable_of_read hread,
            fun member hmember _ _ _ hread => tail.readable_of_read member hmember hread⟩) hvalues
      exact readableMembers_iff.mpr ⟨horder, fun member hmember =>
        ⟨(hfree member hmember).1, hmembers member hmember (hfree member hmember).2⟩⟩

/-- Further items that are read are readable. -/
theorem SpellsItems.readable_of_read {text : List Char} {items : List Outline} :
    SpellsItems text items → ∀ {depth values}, readItems depth items = .ok values →
      UnreservedItems values → ReadableItems depth values
  | .close _, _, _, h, _ => by
    cases h
    trivial
  | .next _ _ head tail, depth, _, h, hfree => by
    obtain ⟨first, rest, hfirst, hrest, rfl⟩ := readItems_cons.mp h
    exact ⟨head.readable_of_read hfirst hfree.1, tail.readable_of_read hrest hfree.2⟩

/-- The value of a member that is read is readable. -/
theorem SpellsMember.readable_of_read {text : List Char} {member : Member} :
    SpellsMember text member → ∀ {depth content}, member.2.read depth = .ok content →
      content.Unreserved → Readable depth content
  | .member _ _ _ value, _, _, h, hfree => value.readable_of_read h hfree

/-- The values of further members that are read are readable. -/
theorem SpellsMembers.readable_of_read {text : List Char} {members : List Member} :
    SpellsMembers text members → ∀ member ∈ members, ∀ {depth content},
      member.2.read depth = .ok content → content.Unreserved → Readable depth content
  | .close _ => by simp
  | .next _ _ head tail =>
    List.forall_mem_cons.mpr ⟨fun h => head.readable_of_read h, fun member hmember _ _ h =>
      tail.readable_of_read member hmember h⟩

end

mutual

/-- **The name that is kept for numerals.** A value without it is read as one without it. -/
theorem Spells.unreserved_of_read {text : List Char} {value : Outline} :
    Spells text value → value.Unreserved → ∀ {depth content}, value.read depth = .ok content →
      content.Unreserved
  | .null, _, depth, _, h | .true, _, depth, _, h | .false, _, depth, _, h => by
    cases depth <;> cases h <;> trivial
  | .number _, _, depth, _, h => by
    rw [read_number] at h
    cases h
    trivial
  | .string _, _, depth, _, h => by
    obtain ⟨text, -, rfl⟩ := read_string.mp h
    trivial
  | .emptyArray _, _, _, _, h => by
    obtain ⟨depth, values, rfl, hitems, rfl⟩ := of_read_array h
    cases hitems
    trivial
  | .array _ head tail, hfree, _, _, h => by
    obtain ⟨depth, values, rfl, hitems, rfl⟩ := of_read_array h
    obtain ⟨first, rest, hfirst, hrest, rfl⟩ := readItems_cons.mp hitems
    exact ⟨head.unreserved_of_read hfree.1 hfirst, tail.unreserved_of_read hfree.2 hrest⟩
  | .emptyObject _, _, _, _, h => by
    obtain ⟨depth, rfl⟩ := exists_depth_of_read_object h
    cases h
    trivial
  | @Spells.object _ _ _ (name, first) _ _ head tail, ⟨hname, hfirst, hrest⟩, _, _, h => by
    obtain ⟨depth, rfl⟩ := exists_depth_of_read_object h
    have hmember : ∀ text content, name.decode = .ok text → first.read depth = .ok content →
        text ≠ numeralName ∧ content.Unreserved := by
      intro text content htext hread
      refine ⟨?_, head.unreserved_of_read hfirst hread⟩
      rintro rfl
      exact hname htext
    -- The first name is not the kept one, so the object is not read as a numeral.
    obtain ⟨text, htext, ⟨rfl, -, -⟩ | ⟨-, values, hvalues, rfl⟩⟩ := read_object.mp h
    · exact absurd htext hname
    · exact unreservedMembers_iff.mpr (forall_mem_of_readMembers (by simp)
        (List.forall_mem_cons.mpr ⟨hmember, tail.unreserved_of_read hrest⟩) hvalues)

/-- Further items that are read are free of the name that is kept for numerals. -/
theorem SpellsItems.unreserved_of_read {text : List Char} {items : List Outline} :
    SpellsItems text items → UnreservedOutlines items → ∀ {depth values},
      readItems depth items = .ok values → UnreservedItems values
  | .close _, _, _, _, h => by
    cases h
    trivial
  | .next _ _ head tail, hfree, depth, _, h => by
    obtain ⟨first, rest, hfirst, hrest, rfl⟩ := readItems_cons.mp h
    exact ⟨head.unreserved_of_read hfree.1 hfirst, tail.unreserved_of_read hfree.2 hrest⟩

/-- The value of a member that is read is free of the name that is kept for numerals. -/
theorem SpellsMember.unreserved_of_read {text : List Char} {member : Member} :
    SpellsMember text member → member.2.Unreserved → ∀ {depth content},
      member.2.read depth = .ok content → content.Unreserved
  | .member _ _ _ value, hfree, _, _, h => value.unreserved_of_read hfree h

/-- Further members that are read are free of the name that is kept for numerals. -/
theorem SpellsMembers.unreserved_of_read {text : List Char} {members : List Member} :
    SpellsMembers text members → UnreservedNames members → ∀ {depth}, ∀ member ∈ members,
      ∀ text content, member.1.decode = .ok text → member.2.read depth = .ok content →
        text ≠ numeralName ∧ content.Unreserved
  | .close _, _, _ => by simp
  | @SpellsMembers.next _ _ _ _ (name, _) _ _ _ head tail, ⟨hname, hfirst, hrest⟩, _ => by
    refine List.forall_mem_cons.mpr ⟨?_, tail.unreserved_of_read hrest⟩
    intro text content htext hread
    refine ⟨?_, head.unreserved_of_read hfirst hread⟩
    rintro rfl
    exact hname htext

end

end TxGateway.Json
