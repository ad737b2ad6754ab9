import TxGateway.Proofs.Json.Fields
/-!
# What is read is well formed

A reader is strict (`Reader.Strict`) when it accepts only values that could be passed over as well:
nothing in them is cut short, and all containers are closed. Every way to make a reader from others
keeps it strict:

* `Outline.skip_of_read` : for values of any shape;
* `Layout.skip_of_read` : for records, which are read only from an object or an array;
* `Reader.Strict.parse_eq_ok_iff` : so a text is parsed only if it is well formed throughout.
-/

namespace TxGateway.Json

open Fallible

/-- Only a container that is closed has an end that can be passed over. -/
theorem Ending.eq_closed_of_close {ending : Ending} (h : faulty ending.close = .ok ()) :
    ending = .closed := by
  cases ending with
  | closed => rfl
  | cut fault | cutAfterComma fault => cases h

namespace Spelling

/-- Only a string that is not cut short has characters. -/
theorem fault_of_characters {fault : Option Fault} {pieces : List Piece} {text : List Char}
    (h : characters fault pieces = .ok text) : fault = none := by
  fun_induction characters fault pieces generalizing text with
  | case1 | case5 | case6 | case8 | case9 => cases h
  | case2 => assumption
  | case3 | case4 | case7 | case10 =>
    rename_i ih
    obtain ⟨_, htail, -⟩ := map_eq_ok_iff.mp h
    exact ih htail

/-- A string that denotes a text can be passed over. -/
theorem skip_of_decode {spelling : Spelling} {text : String} (h : spelling.decode = .ok text) :
    spelling.skip = .ok () := by
  obtain ⟨_, hcharacters, -⟩ := map_eq_ok_iff.mp h
  rw [skip, fault_of_characters hcharacters]

end Spelling

/-! ## Readers -/

namespace Reader

/-- A reader that accepts only what could be passed over. -/
def Strict {α : Type} (read : Reader α) : Prop :=
  ∀ ⦃depth outline content⦄, read depth outline = .ok content → outline.skip = .ok ()

variable {α β : Type} {read : Reader α}

/-- Strings are read strictly. -/
theorem strict_text : text.Strict := by
  intro depth outline content h
  cases outline with
  | string spelling => exact Spelling.skip_of_decode (mapError_eq_ok_iff.mp h)
  | null | bool | number | array | object | misnamed | broken => exact absurd h reject_ne_ok

/-- Truth values are read strictly. -/
theorem strict_flag : flag.Strict := by
  intro depth outline content h
  cases outline with
  | bool => rfl
  | null | string | number | array | object | misnamed | broken => exact absurd h reject_ne_ok

/-- What may be `null` is read as strictly as what may not. -/
theorem Strict.optional (h : read.Strict) : (optional read).Strict := by
  intro depth outline content hread
  by_cases hnull : outline = .null
  · rw [hnull]
    rfl
  · rw [optional_of_ne_null read depth hnull] at hread
    obtain ⟨_, hvalue, -⟩ := map_eq_ok_iff.mp hread
    exact h hvalue

/-- What is judged is read as strictly as what is not. -/
theorem Strict.judged (h : read.Strict) (rule : α → Except Mismatch β) :
    (judged read rule).Strict := by
  intro depth outline content hread
  obtain ⟨_, hvalue, -⟩ := bind_eq_ok_iff.mp hread
  exact h hvalue

end Reader

/-! ## Values of any shape -/

/-- The first member of an object and those behind it can be passed over if its name can be read. -/
theorem skip_object_closed {name : Spelling} {value : Outline} {members : List Member}
    {text : String} (hname : name.decode = .ok text) (hvalue : value.skip = .ok ())
    (hmembers : skipMembers members = .ok ()) :
    (Outline.object ((name, value) :: members) .closed).skip = .ok () := by
  rw [Outline.skip, skipMembers, Spelling.skip_of_decode hname]
  show ((value.skip >>= fun _ => skipMembers members) >>= fun _ => Ending.closed.close) = _
  rw [hvalue]
  show (skipMembers members >>= fun _ => Ending.closed.close) = _
  rw [hmembers]
  rfl

/-- A numeral that is written as an object has its literal in a string. -/
theorem skip_of_readNumeral {outline : Outline} {value : Json}
    (h : readNumeral outline = .ok value) : outline.skip = .ok () := by
  cases outline with
  | string spelling =>
    obtain ⟨_, hdecode, -⟩ := bind_eq_ok_iff.mp h
    exact Spelling.skip_of_decode (mapError_eq_ok_iff.mp hdecode)
  | null | bool | number | array | object | misnamed | broken =>
    exact absurd h Reader.reject_ne_ok

/-- A numeral that is written as an object is its only member. -/
theorem eq_of_closeNumeral {others : List Member} {ending : Ending}
    (h : closeNumeral others ending = .ok ()) : others = [] ∧ ending = .closed := by
  cases others with
  | nil =>
    cases ending with
    | closed => exact ⟨rfl, rfl⟩
    | cut | cutAfterComma => cases h
  | cons => cases h

mutual

/-- A value of any shape that is read can be passed over. -/
theorem Outline.skip_of_read {depth : Nat} :
    ∀ {outline : Outline} {value : Json}, outline.read depth = .ok value → outline.skip = .ok ()
  | .null, _, _ | .bool _, _, _ | .number _, _, _ => rfl
  | .string spelling, value, h => by
    have h : (faulty spelling.decode).map Json.string = .ok value := by
      cases depth <;> exact h
    obtain ⟨_, hdecode, -⟩ := map_eq_ok_iff.mp h
    exact Spelling.skip_of_decode (mapError_eq_ok_iff.mp hdecode)
  | .array _ items ending, _, h => by
    cases depth with
    | zero => cases h
    | succ depth =>
      obtain ⟨_, hitems, h⟩ := bind_eq_ok_iff.mp h
      obtain ⟨⟨⟩, hclose, -⟩ := bind_eq_ok_iff.mp h
      rw [Ending.eq_closed_of_close hclose, Outline.skip, skipItems_of_readItems hitems]
      rfl
  | .object [] ending, _, h => by
    cases depth with
    | zero => cases h
    | succ depth =>
      obtain ⟨⟨⟩, hclose, -⟩ := bind_eq_ok_iff.mp h
      rw [Ending.eq_closed_of_close hclose]
      rfl
  | .object ((name, value) :: others) ending, _, h => by
    cases depth with
    | zero => cases h
    | succ depth =>
      obtain ⟨first, hname, h⟩ := bind_eq_ok_iff.mp h
      have hname := mapError_eq_ok_iff.mp hname
      -- The name of the first member decides whether the object is a numeral.
      split at h
      · obtain ⟨_, hnumeral, h⟩ := bind_eq_ok_iff.mp h
        obtain ⟨⟨⟩, hclose, -⟩ := bind_eq_ok_iff.mp h
        obtain ⟨rfl, rfl⟩ := eq_of_closeNumeral hclose
        exact skip_object_closed hname (skip_of_readNumeral hnumeral) rfl
      · obtain ⟨_, hvalue, h⟩ := bind_eq_ok_iff.mp h
        obtain ⟨_, hothers, h⟩ := bind_eq_ok_iff.mp h
        obtain ⟨⟨⟩, hclose, -⟩ := bind_eq_ok_iff.mp h
        rw [Ending.eq_closed_of_close hclose]
        exact skip_object_closed hname (Outline.skip_of_read hvalue)
          (skipMembers_of_readMembers hothers)
  | .misnamed _, _, h | .broken _, _, h => by
    cases depth <;> cases h

/-- Items that are read can be passed over. -/
theorem skipItems_of_readItems {depth : Nat} :
    ∀ {items : List Outline} {values : List Json}, readItems depth items = .ok values →
      skipItems items = .ok ()
  | [], _, _ => rfl
  | item :: items, _, h => by
    obtain ⟨_, hitem, h⟩ := bind_eq_ok_iff.mp h
    obtain ⟨_, hitems, -⟩ := bind_eq_ok_iff.mp h
    rw [skipItems, Outline.skip_of_read hitem]
    exact skipItems_of_readItems hitems

/-- Members that are read can be passed over. -/
theorem skipMembers_of_readMembers {depth : Nat} :
    ∀ {members : List Member} {before values : List (String × Json)},
      readMembers depth members before = .ok values → skipMembers members = .ok ()
  | [], _, _, _ => rfl
  | (name, value) :: members, _, _, h => by
    obtain ⟨_, hname, h⟩ := bind_eq_ok_iff.mp h
    obtain ⟨_, hvalue, h⟩ := bind_eq_ok_iff.mp h
    rw [skipMembers, Spelling.skip_of_decode (mapError_eq_ok_iff.mp hname)]
    show (value.skip >>= fun _ => skipMembers members) = _
    rw [Outline.skip_of_read hvalue]
    exact skipMembers_of_readMembers h

end

/-- Values of any shape are read strictly. -/
theorem Reader.strict_value : Reader.value.Strict := fun _ _ _ h => Outline.skip_of_read h

/-! ## Records -/

/-- A field is read as strictly as its content. -/
theorem Field.strict_of {ρ α : Type} (name : String) (presence : Presence) {read : Reader α}
    (put : α → ρ → ρ) (h : read.Strict) : (Field.of name presence read put).read.Strict := by
  intro depth outline change hread
  obtain ⟨_, hcontent, -⟩ := map_eq_ok_iff.mp hread
  exact h hcontent

namespace Layout

variable {ρ : Type} {layout : Layout ρ} {depth : Nat} {record record' : ρ}

/-- Members that are read into a record can be passed over. -/
theorem skipMembers_of_readMembers (hstrict : ∀ field ∈ layout.fields, field.read.Strict)
    {members : List Member} {seen seen' : List String}
    (h : layout.readMembers depth members seen record = .ok (seen', record')) :
    skipMembers members = .ok () := by
  induction members generalizing seen record with
  | nil => rfl
  | cons member members ih =>
    obtain ⟨name, value⟩ := member
    have hmembers : ∀ {text : String}, name.decode = .ok text → value.skip = .ok () →
        skipMembers members = .ok () → skipMembers ((name, value) :: members) = .ok () := by
      intro text hname hvalue hrest
      rw [skipMembers, Spelling.skip_of_decode hname]
      show (value.skip >>= fun _ => skipMembers members) = _
      rw [hvalue]
      exact hrest
    obtain ⟨text, hname, ⟨-, hskip, h⟩ | ⟨field, _, hfield, -, hread, h⟩⟩ :=
      readMembers_cons_eq_ok_iff.mp h
    · exact hmembers hname hskip (ih h)
    · exact hmembers hname (hstrict field (mem_of_field? hfield) hread) (ih h)

/-- Items that are read into the fields of a record can be passed over, there are not more of them
than fields, and their array is closed. -/
theorem skipItems_of_readPlaces {ending : Ending} {fields : List (Field ρ)}
    (hstrict : ∀ field ∈ fields, field.read.Strict) {items : List Outline} {given : Nat}
    (h : layout.readPlaces depth ending fields items given record = .ok record') :
    skipItems items = .ok () ∧ items.length ≤ fields.length ∧ ending = .closed := by
  induction fields generalizing items given record with
  | nil =>
    cases items with
    | nil =>
      obtain ⟨⟨⟩, hclose, -⟩ := bind_eq_ok_iff.mp h
      exact ⟨rfl, Nat.le_refl 0, Ending.eq_closed_of_close hclose⟩
    | cons => cases h
  | cons field fields ih =>
    obtain ⟨hfield, hstrict⟩ := List.forall_mem_cons.mp hstrict
    cases items with
    | nil =>
      rw [readPlaces] at h
      obtain ⟨⟨⟩, hclose, -⟩ := bind_eq_ok_iff.mp h
      exact ⟨rfl, Nat.zero_le _, Ending.eq_closed_of_close hclose⟩
    | cons item items =>
      obtain ⟨_, hread, h⟩ := bind_eq_ok_iff.mp h
      obtain ⟨hskip, hlength, hending⟩ := ih hstrict h
      refine ⟨?_, Nat.succ_le_succ hlength, hending⟩
      rw [skipItems, hfield hread]
      exact hskip

/-- **Records.** Where each field is read strictly, a record is read only from a value that could be
passed over, and that states members for a record. -/
theorem skip_of_read (hstrict : ∀ field ∈ layout.fields, field.read.Strict) {outline : Outline}
    (h : layout.read depth outline = .ok record) :
    outline.skip = .ok () ∧ ∃ members, Form layout outline members := by
  unfold read at h
  split at h
  · next depth members ending =>
    obtain ⟨⟨_, _⟩, hread, h⟩ := bind_eq_ok_iff.mp h
    obtain ⟨⟨⟩, hclose, -⟩ := bind_eq_ok_iff.mp h
    obtain rfl := Ending.eq_closed_of_close hclose
    refine ⟨?_, members, .object members⟩
    rw [Outline.skip, skipMembers_of_readMembers hstrict hread]
    rfl
  · next depth blank items ending =>
    obtain ⟨hskip, hlength, rfl⟩ := skipItems_of_readPlaces hstrict h
    refine ⟨?_, _, .array blank hlength⟩
    rw [Outline.skip, hskip]
    rfl
  · cases h
  · cases h
  · cases h
  · cases h
  · exact absurd h Reader.reject_ne_ok

/-- A record is read strictly when each of its fields is. -/
theorem strict (h : ∀ field ∈ layout.fields, field.read.Strict) : layout.read.Strict :=
  fun _ _ _ hread => (skip_of_read h hread).1

end Layout

/-! ## Whole texts -/

/-- A text that is well formed throughout, and what it spells. -/
structure Outlines (text : String) (root : Outline) : Prop where
  scan_eq : Scanner.scan text.toList = ⟨root, false⟩
  skip_eq : root.skip = .ok ()

/-- A text spells at most one value. -/
theorem Outlines.unique {text : String} {first second : Outline} (hfirst : Outlines text first)
    (hsecond : Outlines text second) : first = second := by
  have h := hfirst.scan_eq.symm.trans hsecond.scan_eq
  cases h
  rfl

/-- A text of the grammar is well formed. -/
theorem IsText.outlines {text : String} {root : Outline} (h : IsText text.toList root) :
    Outlines text root := ⟨Scanner.scan_of_isText h, h.skip_eq⟩

/-- **Parsing.** A strict reader parses a text when it is well formed and what it spells is read. -/
theorem Reader.Strict.parse_eq_ok_iff {α : Type} {read : Reader α} (hstrict : read.Strict)
    {text : String} {content : α} :
    read.parse text = .ok content ↔
      ∃ root, Outlines text root ∧ read maxDepth root = .ok content := by
  unfold Reader.parse
  constructor
  · intro h
    obtain ⟨_, hread, h⟩ := bind_eq_ok_iff.mp h
    cases htrailing : (Scanner.scan text.toList).trailing with
    | true =>
      rw [htrailing] at h
      cases h
    | false =>
      rw [htrailing] at h
      cases h
      refine ⟨(Scanner.scan text.toList).root, ⟨?_, hstrict hread⟩, hread⟩
      rw [← htrailing]
  · rintro ⟨root, hroot, hread⟩
    rw [hroot.scan_eq]
    exact bind_eq_ok_iff.mpr ⟨content, hread, rfl⟩

end TxGateway.Json
