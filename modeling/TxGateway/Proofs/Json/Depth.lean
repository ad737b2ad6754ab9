import TxGateway.Json.Record
import TxGateway.Proofs.Json.Grammar
/-!
# How deep readers look

A reader is given the number of containers that it may still enter. A steady reader
(`Reader.Steady`) looks no deeper into a value than the value is nested, so wherever the number is
large enough it makes no difference. Every way to make a reader from others keeps them steady; the
last is the one for records (`Layout.steady`).
-/

namespace TxGateway.Json

open Fallible

namespace Reader

/-- A reader for which all depths that a value's nesting does not exceed are the same. -/
def Steady {α : Type} (read : Reader α) : Prop :=
  ∀ ⦃first second : Nat⦄ ⦃value : Outline⦄, value.nesting ≤ first → value.nesting ≤ second →
    read first value = read second value

variable {α β : Type} {read : Reader α}

/-- Strings hold no containers. -/
theorem steady_text : text.Steady := fun _ _ _ _ _ => rfl

/-- Truth values hold no containers. -/
theorem steady_flag : flag.Steady := fun _ _ _ _ _ => rfl

/-- What may be `null` is read as steadily as what may not. -/
theorem Steady.optional (h : read.Steady) : (optional read).Steady := by
  intro first second value hfirst hsecond
  by_cases hnull : value = .null
  · rw [hnull, optional_null, optional_null]
  · rw [optional_of_ne_null read first hnull, optional_of_ne_null read second hnull,
      h hfirst hsecond]

/-- What is judged is read as steadily as what is not. -/
theorem Steady.judged (h : read.Steady) (rule : α → Except Mismatch β) :
    (judged read rule).Steady := by
  intro first second value hfirst hsecond
  rw [Reader.judged, Reader.judged, h hfirst hsecond]

end Reader

/-! ## Values of any shape -/

mutual

/-- A value of any shape is read alike at all depths that its nesting does not exceed. -/
theorem read_eq_of_nesting_le {first second : Nat} :
    ∀ {value : Outline}, value.nesting ≤ first → value.nesting ≤ second →
      value.read first = value.read second
  | .null, _, _ | .bool _, _, _ | .number _, _, _ | .string _, _, _ | .broken _, _, _ => by
    cases first <;> cases second <;> rfl
  | .misnamed _, hfirst, hsecond => by
    obtain ⟨first, rfl⟩ := Nat.exists_eq_add_of_le' hfirst
    obtain ⟨second, rfl⟩ := Nat.exists_eq_add_of_le' hsecond
    rfl
  | .array _ items _, hfirst, hsecond => by
    obtain ⟨first, rfl⟩ := Nat.exists_eq_add_of_le' hfirst
    obtain ⟨second, rfl⟩ := Nat.exists_eq_add_of_le' hsecond
    have hitems := readItems_eq_of_nesting_le (Nat.le_add_left (nestingItems items) first)
      (Nat.le_add_left (nestingItems items) second)
    rw [Outline.nesting, ← Nat.add_assoc, ← Nat.add_assoc, Outline.read, Outline.read, hitems]
  | .object [] _, hfirst, hsecond => by
    obtain ⟨first, rfl⟩ := Nat.exists_eq_add_of_le' hfirst
    obtain ⟨second, rfl⟩ := Nat.exists_eq_add_of_le' hsecond
    rfl
  | .object ((name, value) :: members) _, hfirst, hsecond => by
    obtain ⟨first, rfl⟩ := Nat.exists_eq_add_of_le' hfirst
    obtain ⟨second, rfl⟩ := Nat.exists_eq_add_of_le' hsecond
    have hnested := Nat.max_le.mp (Nat.le_refl (nestingMembers ((name, value) :: members)))
    have hhead : value.read (first + nestingMembers ((name, value) :: members)) =
        value.read (second + nestingMembers ((name, value) :: members)) :=
      read_eq_of_nesting_le (by omega) (by omega)
    have htail : ∀ before, readMembers (first + nestingMembers ((name, value) :: members)) members
        before = readMembers (second + nestingMembers ((name, value) :: members)) members before :=
      fun before => readMembers_eq_of_nesting_le before (by omega) (by omega)
    rw [Outline.nesting, ← Nat.add_assoc, ← Nat.add_assoc, Outline.read, Outline.read, hhead]
    simp only [htail]

/-- Items are read alike at all depths that their nesting does not exceed. -/
theorem readItems_eq_of_nesting_le {first second : Nat} :
    ∀ {items : List Outline}, nestingItems items ≤ first → nestingItems items ≤ second →
      readItems first items = readItems second items
  | [], _, _ => rfl
  | _ :: _, hfirst, hsecond => by
    have hfirst := Nat.max_le.mp hfirst
    have hsecond := Nat.max_le.mp hsecond
    rw [readItems, readItems, read_eq_of_nesting_le hfirst.1 hsecond.1,
      readItems_eq_of_nesting_le hfirst.2 hsecond.2]

/-- Members are read alike at all depths that their nesting does not exceed. -/
theorem readMembers_eq_of_nesting_le {first second : Nat} :
    ∀ {members : List Member} (before : List (String × Json)),
      nestingMembers members ≤ first → nestingMembers members ≤ second →
      readMembers first members before = readMembers second members before
  | [], _, _, _ => rfl
  | (_, _) :: _, before, hfirst, hsecond => by
    have hfirst := Nat.max_le.mp hfirst
    have hsecond := Nat.max_le.mp hsecond
    rw [readMembers, readMembers, read_eq_of_nesting_le hfirst.1 hsecond.1]
    simp only [readMembers_eq_of_nesting_le _ hfirst.2 hsecond.2]

end

/-- Values of any shape are read steadily. -/
theorem Reader.steady_value : Reader.value.Steady := fun _ _ _ hfirst hsecond =>
  read_eq_of_nesting_le hfirst hsecond

/-! ## Records -/

/-- A field is read as steadily as its content. -/
theorem Field.steady_of {ρ α : Type} (name : String) (presence : Presence) {read : Reader α}
    (put : α → ρ → ρ) (h : read.Steady) : (Field.of name presence read put).read.Steady := by
  intro first second value hfirst hsecond
  show (read first value).map put = (read second value).map put
  rw [h hfirst hsecond]

namespace Layout

variable {ρ : Type} {layout : Layout ρ}

/-- Members are read into a record alike at all depths that their nesting does not exceed. -/
theorem readMembers_eq_of_steady (h : ∀ field ∈ layout.fields, field.read.Steady)
    {first second : Nat} {members : List Member} (hfirst : nestingMembers members ≤ first)
    (hsecond : nestingMembers members ≤ second) (seen : List String) (record : ρ) :
    layout.readMembers first members seen record =
      layout.readMembers second members seen record := by
  induction members generalizing seen record with
  | nil => rfl
  | cons member members ih =>
    obtain ⟨name, value⟩ := member
    have hfirst := Nat.max_le.mp hfirst
    have hsecond := Nat.max_le.mp hsecond
    have htail := ih hfirst.2 hsecond.2
    have hvalue : ∀ found field, layout.field? found = some field →
        field.read first value = field.read second value := by
      intro found field hfield
      exact h field (List.mem_of_find?_eq_some hfield) hfirst.1 hsecond.1
    rw [readMembers, readMembers]
    simp only [htail]
    congr 1
    funext found
    cases hfield : layout.field? found with
    | none => rfl
    | some field => simp only [hvalue found field hfield]

/-- Items are read into a record alike at all depths that their nesting does not exceed. -/
theorem readPlaces_eq_of_steady {first second : Nat} (ending : Ending) {fields : List (Field ρ)}
    (h : ∀ field ∈ fields, field.read.Steady) {items : List Outline}
    (hfirst : nestingItems items ≤ first) (hsecond : nestingItems items ≤ second) (given : Nat)
    (record : ρ) :
    layout.readPlaces first ending fields items given record =
      layout.readPlaces second ending fields items given record := by
  induction fields generalizing items given record with
  | nil => cases items <;> rfl
  | cons field fields ih =>
    have htail : ∀ {items : List Outline}, nestingItems items ≤ first →
        nestingItems items ≤ second → ∀ given record,
        layout.readPlaces first ending fields items given record =
          layout.readPlaces second ending fields items given record :=
      fun hfirst hsecond => ih (fun later hlater => h later (List.mem_cons_of_mem _ hlater))
        hfirst hsecond
    cases items with
    | nil =>
      rw [readPlaces, readPlaces]
      simp only [@htail [] (Nat.zero_le first) (Nat.zero_le second)]
    | cons item items =>
      have hfirst := Nat.max_le.mp hfirst
      have hsecond := Nat.max_le.mp hsecond
      rw [readPlaces, readPlaces, h field List.mem_cons_self hfirst.1 hsecond.1]
      simp only [htail hfirst.2 hsecond.2]

/-- **Records.** A record is read steadily when each of its fields is. -/
theorem steady (h : ∀ field ∈ layout.fields, field.read.Steady) : layout.read.Steady := by
  intro first second value hfirst hsecond
  cases value with
  | null | bool | number | string | broken => cases first <;> cases second <;> rfl
  | misnamed name =>
    obtain ⟨first, rfl⟩ := Nat.exists_eq_add_of_le' hfirst
    obtain ⟨second, rfl⟩ := Nat.exists_eq_add_of_le' hsecond
    rfl
  | array blank items ending =>
    obtain ⟨first, rfl⟩ := Nat.exists_eq_add_of_le' hfirst
    obtain ⟨second, rfl⟩ := Nat.exists_eq_add_of_le' hsecond
    exact readPlaces_eq_of_steady ending h (Nat.le_add_left _ _) (Nat.le_add_left _ _) 0
      layout.blank
  | object members ending =>
    obtain ⟨first, rfl⟩ := Nat.exists_eq_add_of_le' hfirst
    obtain ⟨second, rfl⟩ := Nat.exists_eq_add_of_le' hsecond
    have hmembers := readMembers_eq_of_steady h
      (Nat.le_add_left (nestingMembers members) first)
      (Nat.le_add_left (nestingMembers members) second) [] layout.blank
    show layout.readObject (first + nestingMembers members) members ending =
      layout.readObject (second + nestingMembers members) members ending
    rw [readObject, readObject, hmembers]

end Layout

end TxGateway.Json
