import TxGateway.Json.Printer
import TxGateway.Proofs.Json.Grammar
/-!
# What the compact text of a value spells

`Json.outline` is the outline that the compact text of a value spells: a character is spelled as the
printer escapes it, and every container is closed. The printer writes by the grammar:

* `Spelling.text_ofText` : a printed string is written as it is spelled;
* `spells_print` : a printed value spells its outline;
* `isText_compact` : so the compact text is a JSON text of its outline.
-/

namespace TxGateway.Json

/-! ## The outline of a value -/

/-- The piece that the printer writes for a character. -/
def Piece.ofChar (c : Char) : Piece :=
  match escape c with
  | ['\\', letter] => .escaped letter
  | '\\' :: 'u' :: digits => .unit digits
  | _ => .plain c

/-- A text as the printer spells it. -/
def Spelling.ofText (text : String) : Spelling := ⟨text.toList.map Piece.ofChar, none⟩

mutual

/-- The outline that the compact text of a value spells. -/
def outline : Json → Outline
  | .null => .null
  | .bool flag => .bool flag
  | .number literal => .number literal.toList
  | .string text => .string (.ofText text)
  | .array items => .array false (outlineItems items) .closed
  | .object members => .object (outlineMembers members) .closed

/-- The outlines of items. -/
def outlineItems : List Json → List Outline
  | [] => []
  | item :: items => item.outline :: outlineItems items

/-- The outlines of members. -/
def outlineMembers : List (String × Json) → List Member
  | [] => []
  | (name, value) :: members => (.ofText name, value.outline) :: outlineMembers members

end

mutual

/-- A value whose numbers are JSON literals. -/
def Legible : Json → Prop
  | .null | .bool _ | .string _ => True
  | .number literal => Numeral.check literal.toList = .ok ()
  | .array items => LegibleItems items
  | .object members => LegibleMembers members

/-- Items whose numbers are JSON literals. -/
def LegibleItems : List Json → Prop
  | [] => True
  | item :: items => item.Legible ∧ LegibleItems items

/-- Members whose numbers are JSON literals. -/
def LegibleMembers : List (String × Json) → Prop
  | [] => True
  | (_, value) :: members => value.Legible ∧ LegibleMembers members

end

/-! ## Characters -/

/-- The cases of a character for the printer: one of the seven with a short escape, another control
character, or a character that stands for itself. -/
theorem escape_cases (c : Char) :
    (∃ letter, escape c = ['\\', letter] ∧ letter ≠ 'u' ∧ Piece.isEscape letter = true ∧
      Piece.unescape letter = c) ∨
    (c.toNat < 0x20 ∧ escape c =
      ['\\', 'u', '0', '0', Nat.digitChar (c.toNat / 16), Nat.digitChar (c.toNat % 16)]) ∨
    (c ≠ '"' ∧ c ≠ '\\' ∧ ¬ c.toNat < 0x20 ∧ escape c = [c]) := by
  unfold escape
  split
  · exact Or.inl ⟨_, rfl, by decide, by decide, by decide⟩
  · exact Or.inl ⟨_, rfl, by decide, by decide, by decide⟩
  · exact Or.inl ⟨_, rfl, by decide, by decide, by decide⟩
  · exact Or.inl ⟨_, rfl, by decide, by decide, by decide⟩
  · exact Or.inl ⟨_, rfl, by decide, by decide, by decide⟩
  · exact Or.inl ⟨_, rfl, by decide, by decide, by decide⟩
  · exact Or.inl ⟨_, rfl, by decide, by decide, by decide⟩
  · next hquote hslash _ _ _ _ _ =>
    by_cases hcontrol : c.toNat < 0x20
    · rw [if_pos hcontrol]
      exact Or.inr (Or.inl ⟨hcontrol, rfl⟩)
    · rw [if_neg hcontrol]
      exact Or.inr (Or.inr ⟨fun h => hquote h, fun h => hslash h, hcontrol, rfl⟩)

/-- A short escape is one piece. -/
theorem Piece.ofChar_of_escaped {c letter : Char} (h : escape c = ['\\', letter]) :
    Piece.ofChar c = .escaped letter := by
  simp [Piece.ofChar, h]

/-- The long escape of a control character is one piece. -/
theorem Piece.ofChar_of_unit {c first second third fourth : Char}
    (h : escape c = ['\\', 'u', first, second, third, fourth]) :
    Piece.ofChar c = .unit [first, second, third, fourth] := by
  simp [Piece.ofChar, h]

/-- A character that stands for itself is one piece. -/
theorem Piece.ofChar_of_plain {c : Char} (h : escape c = [c]) : Piece.ofChar c = .plain c := by
  simp [Piece.ofChar, h]

/-- A piece is written as the printer escapes its character. -/
theorem Piece.text_ofChar (c : Char) : (Piece.ofChar c).text = escape c := by
  rcases escape_cases c with ⟨letter, hescape, -, -, -⟩ | ⟨-, hescape⟩ | ⟨-, -, -, hescape⟩
  · rw [Piece.ofChar_of_escaped hescape, hescape]
    rfl
  · rw [Piece.ofChar_of_unit hescape, hescape]
    rfl
  · rw [Piece.ofChar_of_plain hescape, hescape]
    rfl

/-- The printer writes well-formed pieces. -/
theorem Piece.wellFormed_ofChar (c : Char) : (Piece.ofChar c).WellFormed := by
  rcases escape_cases c with ⟨letter, hescape, -, hletter, -⟩ | ⟨hcontrol, hescape⟩ |
    ⟨hquote, hslash, hcontrol, hescape⟩
  · rw [Piece.ofChar_of_escaped hescape]
    exact hletter
  · have hdigit : ∀ n, n < 16 → Digits.isDigit 16 (Nat.digitChar n) = true :=
      fun n => Digits.isDigit_digitChar 16 n (by omega)
    rw [Piece.ofChar_of_unit hescape]
    refine ⟨rfl, ?_⟩
    simp [hdigit _ (show c.toNat / 16 < 16 by omega), hdigit _ (show c.toNat % 16 < 16 by omega),
      show Digits.isDigit 16 '0' = true by decide]
  · rw [Piece.ofChar_of_plain hescape]
    exact ⟨hquote, hslash, hcontrol⟩

/-- The hex digits of a control character denote it. -/
theorem ofDigits_control {code : Nat} (h : code < 0x20) :
    Digits.ofDigits 16 ['0', '0', Nat.digitChar (code / 16), Nat.digitChar (code % 16)] = code := by
  have all : ∀ n, n < 0x20 →
      Digits.ofDigits 16 ['0', '0', Nat.digitChar (n / 16), Nat.digitChar (n % 16)] = n := by decide
  exact all code h

namespace Spelling

/-- The pieces of a text spell the text. -/
theorem characters_ofChar (text : List Char) :
    characters none (text.map Piece.ofChar) = .ok text := by
  induction text with
  | nil => rfl
  | cons c text ih =>
    rw [List.map_cons]
    rcases escape_cases c with ⟨letter, hescape, -, -, hletter⟩ | ⟨hcontrol, hescape⟩ |
      ⟨-, -, -, hescape⟩
    · rw [Piece.ofChar_of_escaped hescape, characters, ih, hletter]
      rfl
    · have hvalue := ofDigits_control hcontrol
      have hlow : isLow c.toNat = false := by
        simp only [isLow, Bool.and_eq_false_iff, decide_eq_false_iff_not]
        omega
      have hhigh : isHigh c.toNat = false := by
        simp only [isHigh, Bool.and_eq_false_iff, decide_eq_false_iff_not]
        omega
      rw [Piece.ofChar_of_unit hescape, characters.eq_def]
      simp only [hvalue, hlow, hhigh, Bool.false_eq_true, if_false, Char.ofNat_toNat, ih]
      rfl
    · rw [Piece.ofChar_of_plain hescape, characters, ih]
      rfl

/-- The spelling of a text denotes the text. -/
theorem decode_ofText (text : String) : (ofText text).decode = .ok text := by
  rw [decode, ofText, characters_ofChar]
  show Except.ok (String.ofList text.toList) = .ok text
  rw [String.ofList_toList]

/-- A text is spelled as the printer writes it. -/
theorem text_ofText (text : String) : (ofText text).text = printString text := by
  have hpieces :
      (text.toList.map Piece.ofChar).flatMap Piece.text = text.toList.flatMap escape := by
    simp only [List.flatMap_map, Piece.text_ofChar]
  show '"' :: ((text.toList.map Piece.ofChar).flatMap Piece.text ++ ['"']) = _
  rw [hpieces]
  rfl

/-- What the printer writes is well formed. -/
theorem wellFormed_ofText (text : String) : (ofText text).WellFormed := by
  refine ⟨rfl, ?_⟩
  intro piece hpiece
  obtain ⟨c, -, rfl⟩ := List.mem_map.mp hpiece
  exact Piece.wellFormed_ofChar c

end Spelling

/-! ## Values -/

/-- A printed string spells its text. -/
theorem spells_printString (text : String) :
    Spells (printString text) (.string (.ofText text)) := by
  rw [← Spelling.text_ofText]
  exact .string (Spelling.wellFormed_ofText text)

/-- A printed member spells the outline of its value, if the value does. -/
theorem spells_printMember (name : String) {text : List Char} {value : Outline}
    (h : Spells text value) :
    SpellsMember (printString name ++ ':' :: text) (.ofText name, value) := by
  rw [← Spelling.text_ofText]
  exact .member (Spelling.wellFormed_ofText name) space_nil space_nil h

mutual

/-- **Printing.** A printed value spells its outline. -/
theorem spells_print : ∀ value : Json, value.Legible → Spells value.print value.outline
  | .null, _ => .null
  | .bool true, _ => .true
  | .bool false, _ => .false
  | .number _, h => .number h
  | .string text, _ => by
    rw [print, outline]
    exact spells_printString text
  | .array [], _ => .emptyArray space_nil
  | .array (item :: items), h =>
    .array space_nil (spells_print item h.1) (spells_printItems items h.2)
  | .object [], _ => .emptyObject space_nil
  | .object ((name, value) :: members), h => by
    have htext : (Json.object ((name, value) :: members)).print =
        '{' :: ([] ++ ((printString name ++ ':' :: value.print) ++ printMembers members)) := by
      simp [print]
    rw [htext]
    exact .object space_nil (spells_printMember name (spells_print value h.1))
      (spells_printMembers members h.2)

/-- Printed items behind an item spell their outlines. -/
theorem spells_printItems :
    ∀ items : List Json, LegibleItems items → SpellsItems (printItems items) (outlineItems items)
  | [], _ => .close space_nil
  | item :: items, h =>
    .next space_nil space_nil (spells_print item h.1) (spells_printItems items h.2)

/-- Printed members behind a member spell their outlines. -/
theorem spells_printMembers :
    ∀ members : List (String × Json), LegibleMembers members →
      SpellsMembers (printMembers members) (outlineMembers members)
  | [], _ => .close space_nil
  | (name, value) :: members, h => by
    have htext : printMembers ((name, value) :: members) =
        [] ++ ',' ::
          ([] ++ ((printString name ++ ':' :: value.print) ++ printMembers members)) := by
      simp [printMembers]
    rw [htext]
    exact .next space_nil space_nil (spells_printMember name (spells_print value h.1))
      (spells_printMembers members h.2)

end

/-- **The whole text.** The compact text of a value is a JSON text of the value's outline. -/
theorem isText_compact {value : Json} (h : value.Legible) :
    IsText value.compact.toList value.outline := by
  rw [compact, String.toList_ofList]
  exact (spells_print value h).isText

end TxGateway.Json
