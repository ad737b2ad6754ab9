import TxGateway.Json.Scanner
import TxGateway.Proofs.Fallible
/-!
# The grammar of JSON texts

`Spells` relates a text to the outline that it spells, one rule for each form of a value; `IsText`
allows white space around the value. `Outline.nesting` counts how deep containers stand in one
another. The scanner finds what the grammar says, at any place of a longer text:

* `Spells.skip_eq` : a value that a text spells can be passed over;
* `Scanner.Holds` : the states in which a value has been read. A numeral ends only where something
  else follows, so there are two of them;
* `Scanner.holds_run` : a value is scanned into the outline that its text spells;
* `Scanner.scan_of_isText` : so is a whole text.
-/

namespace TxGateway.Json

/-! ## Texts and what they spell -/

/-- White space between tokens, of any length. -/
def Space (text : List Char) : Prop := ∀ c ∈ text, Scanner.isSpace c = true

/-- A piece of a string as JSON has it. Units of UTF-16 need not come in pairs. -/
def Piece.WellFormed : Piece → Prop
  | plain c => c ≠ '"' ∧ c ≠ '\\' ∧ ¬ c.toNat < 0x20
  | escaped letter => isEscape letter = true
  | unit digits => digits.length = 4 ∧ digits.all (Digits.isDigit 16) = true

/-- A string that is not cut short, each piece of it well formed. -/
structure Spelling.WellFormed (spelling : Spelling) : Prop where
  uncut : spelling.fault = none
  pieces : ∀ piece ∈ spelling.pieces, piece.WellFormed

mutual

/-- A text spells a value. -/
inductive Spells : List Char → Outline → Prop
  | null : Spells ['n', 'u', 'l', 'l'] .null
  | true : Spells ['t', 'r', 'u', 'e'] (.bool true)
  | false : Spells ['f', 'a', 'l', 's', 'e'] (.bool false)
  | number {literal : List Char} (valid : Numeral.check literal = .ok ()) :
      Spells literal (.number literal)
  | string {spelling : Spelling} (valid : spelling.WellFormed) :
      Spells spelling.text (.string spelling)
  | emptyArray {space : List Char} (blank : Space space) :
      Spells ('[' :: (space ++ [']'])) (.array (!space.isEmpty) [] .closed)
  | array {space first rest : List Char} {item : Outline} {items : List Outline}
      (blank : Space space) (head : Spells first item) (tail : SpellsItems rest items) :
      Spells ('[' :: (space ++ (first ++ rest))) (.array (!space.isEmpty) (item :: items) .closed)
  | emptyObject {space : List Char} (blank : Space space) :
      Spells ('{' :: (space ++ ['}'])) (.object [] .closed)
  | object {space first rest : List Char} {member : Member} {members : List Member}
      (blank : Space space) (head : SpellsMember first member)
      (tail : SpellsMembers rest members) :
      Spells ('{' :: (space ++ (first ++ rest))) (.object (member :: members) .closed)

/-- What follows an item of an array: further items, each behind a comma, and the closing bracket.
-/
inductive SpellsItems : List Char → List Outline → Prop
  | close {space : List Char} (blank : Space space) : SpellsItems (space ++ [']']) []
  | next {before after first rest : List Char} {item : Outline} {items : List Outline}
      (blankBefore : Space before) (blankAfter : Space after) (head : Spells first item)
      (tail : SpellsItems rest items) :
      SpellsItems (before ++ ',' :: (after ++ (first ++ rest))) (item :: items)

/-- A member of an object: its name, a colon, and its value. -/
inductive SpellsMember : List Char → Member → Prop
  | member {before after text : List Char} {name : Spelling} {value : Outline}
      (valid : name.WellFormed) (blankBefore : Space before) (blankAfter : Space after)
      (content : Spells text value) :
      SpellsMember (name.text ++ (before ++ ':' :: (after ++ text))) (name, value)

/-- What follows a member of an object: further members, each behind a comma, and the closing brace.
-/
inductive SpellsMembers : List Char → List Member → Prop
  | close {space : List Char} (blank : Space space) : SpellsMembers (space ++ ['}']) []
  | next {before after first rest : List Char} {member : Member} {members : List Member}
      (blankBefore : Space before) (blankAfter : Space after) (head : SpellsMember first member)
      (tail : SpellsMembers rest members) :
      SpellsMembers (before ++ ',' :: (after ++ (first ++ rest))) (member :: members)

end

/-- A JSON text: a value, and white space around it. -/
inductive IsText : List Char → Outline → Prop
  | text {before value after : List Char} {root : Outline} (blankBefore : Space before)
      (blankAfter : Space after) (content : Spells value root) :
      IsText (before ++ (value ++ after)) root

/-- No white space is white space. -/
theorem space_nil : Space [] := by
  intro c hc
  cases hc

/-- A text is its value with white space around it. -/
theorem IsText.exists_eq {text : List Char} {root : Outline} (h : IsText text root) :
    ∃ before value after, text = before ++ (value ++ after) ∧ Space before ∧ Space after ∧
      Spells value root := by
  obtain ⟨hbefore, hafter, hvalue⟩ := h
  exact ⟨_, _, _, rfl, hbefore, hafter, hvalue⟩

/-- A value is a text. -/
theorem Spells.isText {text : List Char} {root : Outline} (h : Spells text root) :
    IsText text root := by
  have htext := IsText.text space_nil space_nil h
  rwa [List.append_nil] at htext

mutual

/-- A value that a text spells can be passed over. -/
theorem Spells.skip_eq {text : List Char} {value : Outline} :
    Spells text value → value.skip = .ok ()
  | .null | .true | .false | .number _ | .emptyArray _ | .emptyObject _ => rfl
  | .string valid => by rw [Outline.skip, Spelling.skip, valid.uncut]
  | .array _ head tail => by
    rw [Outline.skip, skipItems, head.skip_eq]
    show (skipItems _ >>= fun _ => _) = _
    rw [tail.skip_eq]
    rfl
  | .object _ head tail => by
    rw [Outline.skip, skipMembers_cons head, tail.skip_eq]
    rfl

/-- Further items can be passed over. -/
theorem SpellsItems.skip_eq {text : List Char} {items : List Outline} :
    SpellsItems text items → skipItems items = .ok ()
  | .close _ => rfl
  | .next _ _ head tail => by
    rw [skipItems, head.skip_eq]
    exact tail.skip_eq

/-- A member can be passed over before others. -/
theorem skipMembers_cons {text : List Char} {member : Member} {members : List Member} :
    SpellsMember text member → skipMembers (member :: members) = skipMembers members
  | .member valid _ _ content => by
    rw [skipMembers, Spelling.skip, valid.uncut]
    show (Outline.skip _ >>= fun _ => _) = _
    rw [content.skip_eq]
    rfl

/-- Further members can be passed over. -/
theorem SpellsMembers.skip_eq {text : List Char} {members : List Member} :
    SpellsMembers text members → skipMembers members = .ok ()
  | .close _ => rfl
  | .next _ _ head tail => by rw [skipMembers_cons head, tail.skip_eq]

end

/-- The value of a text can be passed over. -/
theorem IsText.skip_eq {text : List Char} {root : Outline} (h : IsText text root) :
    root.skip = .ok () := by
  obtain ⟨-, -, hvalue⟩ := h
  exact hvalue.skip_eq

/-! ## How deep a value is nested -/

mutual

/-- How many containers stand in one another. -/
def Outline.nesting : Outline → Nat
  | .null | .bool _ | .number _ | .string _ | .broken _ => 0
  | .array _ items _ => nestingItems items + 1
  | .object members _ => nestingMembers members + 1
  | .misnamed name => name.nesting + 1

/-- The nesting of the item that is nested deepest. -/
def nestingItems : List Outline → Nat
  | [] => 0
  | item :: items => max item.nesting (nestingItems items)

/-- The nesting of the member that is nested deepest. -/
def nestingMembers : List (Spelling × Outline) → Nat
  | [] => 0
  | (_, value) :: members => max value.nesting (nestingMembers members)

end

namespace Scanner

/-! ## White space -/

/-- White space does not change the place between tokens, but behind the opening bracket of an array
it is kept in mind. -/
theorem run_space (frames : List Frame) {place : Place} (hplace : ∀ blank, place ≠ .firstItem blank)
    {space : List Char} (h : Space space) :
    run (.between frames place) space = .between frames place := by
  induction space with
  | nil => rfl
  | cons c space ih =>
    have hc : isSpace c = true := h c List.mem_cons_self
    have hstep : step (.between frames place) c = .between frames place := by
      cases place with
      | firstItem blank => exact absurd rfl (hplace blank)
      | _ => simp only [step, stepIdle, stepBetween, hc, if_true]
    rw [run_cons, hstep]
    exact ih fun d hd => h d (List.mem_cons_of_mem _ hd)

/-- White space behind the opening bracket of an array is kept in mind. -/
theorem run_space_firstItem (frames : List Frame) (blank : Bool) {space : List Char}
    (h : Space space) :
    run (.between frames (.firstItem blank)) space =
      .between frames (.firstItem (blank || !space.isEmpty)) := by
  induction space generalizing blank with
  | nil => simp
  | cons c space ih =>
    have hc : isSpace c = true := h c List.mem_cons_self
    have hstep : step (.between frames (.firstItem blank)) c =
        .between frames (.firstItem true) := by
      simp only [step, stepIdle, stepBetween, hc, if_true]
    rw [run_cons, hstep, ih true fun d hd => h d (List.mem_cons_of_mem _ hd)]
    simp

/-! ## Strings -/

/-- A hex digit takes one byte. -/
theorem utf8Size_of_isDigit {c : Char} (h : Digits.isDigit 16 c = true) : c.utf8Size = 1 := by
  have hcode : c.toNat ≤ 102 := (Digits.code_of_isDigit h).2
  unfold Char.utf8Size
  rw [if_pos]
  show c.val.toNat ≤ 127
  exact Nat.le_trans hcode (by decide)

/-- Four hex digits behind the escape of a unit are scanned into the unit. -/
theorem run_unit (frames : List Frame) (role : Role) (pieces : List Piece) {digits : List Char}
    (hlength : digits.length = 4) (hdigits : digits.all (Digits.isDigit 16) = true) :
    run (.text frames role pieces (.unit [])) digits =
      .text frames role (.unit digits :: pieces) .plain := by
  match digits, hlength with
  | [a, b, c, d], _ =>
    simp only [List.all_cons, List.all_nil, Bool.and_true, Bool.and_eq_true] at hdigits
    obtain ⟨ha, hb, hc, hd⟩ := hdigits
    simp [step, stepText, byteCount, utf8Size_of_isDigit ha, utf8Size_of_isDigit hb,
      utf8Size_of_isDigit hc, utf8Size_of_isDigit hd, ha, hb, hc, hd]

/-- A piece is scanned as it is written. -/
theorem run_piece (frames : List Frame) (role : Role) (pieces : List Piece) {piece : Piece}
    (h : piece.WellFormed) :
    run (.text frames role pieces .plain) piece.text =
      .text frames role (piece :: pieces) .plain := by
  cases piece with
  | plain c =>
    obtain ⟨hquote, hslash, hcontrol⟩ := h
    simp [Piece.text, step, stepText, hquote, hslash, hcontrol]
  | escaped letter =>
    have hletter : Piece.isEscape letter = true := h
    have hunit : letter ≠ 'u' := by
      rintro rfl
      cases hletter
    simp [Piece.text, step, stepText, hunit, hletter]
  | unit digits =>
    have hrun := run_unit frames role pieces h.1 h.2
    simpa [Piece.text, step, stepText] using hrun

/-- Pieces are scanned one after the other, the latest first. -/
theorem run_pieces (frames : List Frame) (role : Role) (before : List Piece) {pieces : List Piece}
    (h : ∀ piece ∈ pieces, piece.WellFormed) :
    run (.text frames role before .plain) (pieces.flatMap Piece.text) =
      .text frames role (pieces.reverse ++ before) .plain := by
  induction pieces generalizing before with
  | nil => rfl
  | cons piece pieces ih =>
    rw [List.flatMap_cons, run_append, run_piece frames role before (h piece List.mem_cons_self),
      ih (piece :: before) fun later hlater => h later (List.mem_cons_of_mem _ hlater),
      List.reverse_cons, List.append_assoc]
    rfl

/-- A string is scanned into its spelling, once its opening quotation mark is read. -/
theorem run_text (frames : List Frame) (role : Role) {spelling : Spelling}
    (h : spelling.WellFormed) {state : State}
    (hstate : step state '"' = .text frames role [] .plain) :
    run state spelling.text = completeText frames role spelling := by
  obtain ⟨pieces, fault⟩ := spelling
  obtain rfl : fault = none := h.uncut
  show run state ('"' :: (pieces.flatMap Piece.text ++ ['"'])) = _
  rw [run_cons, hstate, run_append, run_pieces frames role [] h.pieces, List.append_nil, run_cons,
    run_nil]
  simp [step, stepText]

/-! ## Numerals -/

/-- The rest of a literal is scanned as the rest of a numeral that may end where the literal does.
-/
theorem run_numeral (frames : List Frame) (phase : Numeral.Phase) (literal rest : List Char)
    (h : Numeral.checkFrom phase rest = .ok ()) :
    ∃ last : Numeral.Phase, last.isComplete = true ∧
      run (.numeral frames phase literal) rest =
        .numeral frames last (rest.reverse ++ literal) := by
  induction rest generalizing phase literal with
  | nil =>
    refine ⟨phase, ?_, rfl⟩
    unfold Numeral.checkFrom at h
    split at h
    · next hcomplete => exact hcomplete
    · cases h
  | cons c rest ih =>
    unfold Numeral.checkFrom at h
    split at h
    · next next hstep =>
      obtain ⟨last, hlast, hrun⟩ := ih next (c :: literal) h
      refine ⟨last, hlast, ?_⟩
      rw [run_cons, List.reverse_cons, List.append_assoc]
      simp only [step, hstep]
      exact hrun
    · cases h
    · cases h

/-! ## Values -/

/-- The states in which a value has been read inside some containers: it is taken up, or it is a
numeral that may end here. -/
inductive Holds (frames : List Frame) : Outline → State → Prop
  | complete (value : Outline) : Holds frames value (complete frames value)
  | numeral {phase : Numeral.Phase} (literal : List Char) (ends : phase.isComplete = true) :
      Holds frames (.number literal.reverse) (.numeral frames phase literal)

/-- Behind a value stands white space, a comma or a closing bracket. -/
def isDelimiter (c : Char) : Bool := isSpace c || c = ',' || c = ']' || c = '}'

/-- White space is a delimiter. -/
theorem isDelimiter_of_isSpace {c : Char} (h : isSpace c = true) : isDelimiter c = true := by
  simp [isDelimiter, h]

/-- No literal goes on with a delimiter. -/
theorem step_of_isDelimiter {phase : Numeral.Phase} {c : Char} (hends : phase.isComplete = true)
    (hc : isDelimiter c = true) : phase.step c = .complete := by
  have hother : Numeral.isDigit c = false ∧ c ≠ '.' ∧ c ≠ 'e' ∧ c ≠ 'E' := by
    simp only [isDelimiter, isSpace, Bool.or_eq_true, decide_eq_true_eq] at hc
    rcases hc with (((((rfl | rfl) | rfl) | rfl) | rfl) | rfl) | rfl <;> decide
  cases phase with
  | sign | point | exponent | exponentSign => cases hends
  | zero | whole | fraction | exponentDigits => simp [Numeral.Phase.step, hother]

/-- A delimiter behind a value is read where the value has been taken up. -/
theorem Holds.step_eq {frames : List Frame} {value : Outline} {state : State}
    (h : Holds frames value state) {c : Char} (hc : isDelimiter c = true) :
    step state c = stepIdle (Scanner.complete frames value) c := by
  cases h with
  | complete =>
    cases frames with
    | nil => rfl
    | cons frame frames => cases frame <;> rfl
  | numeral literal ends => simp only [step, step_of_isDelimiter ends hc]

/-- White space behind a value leaves the value read. -/
theorem Holds.run_space {frames : List Frame} {value : Outline} {state : State}
    (h : Holds frames value state) {space : List Char} (hspace : Space space) :
    Holds frames value (run state space) := by
  induction space generalizing state with
  | nil => exact h
  | cons c space ih =>
    have hc : isSpace c = true := hspace c List.mem_cons_self
    have hidle : stepIdle (Scanner.complete frames value) c = Scanner.complete frames value := by
      rcases frames with _ | ⟨⟨_, _⟩ | ⟨_, _⟩ | _, frames⟩ <;>
        simp [Scanner.complete, stepIdle, stepBetween, hc]
    rw [run_cons, h.step_eq (isDelimiter_of_isSpace hc), hidle]
    exact ih (.complete value) fun d hd => hspace d (List.mem_cons_of_mem _ hd)

/-- A value at the end of a text is the whole text. -/
theorem Holds.finish_eq {value : Outline} {state : State} (h : Holds [] value state) :
    finish state = ⟨value, false⟩ := by
  cases h with
  | complete => rfl
  | numeral literal ends =>
    simp only [finish, if_pos ends]
    rfl

/-- A valid literal starts with a sign or a digit. -/
theorem exists_start_of_check {literal : List Char} (h : Numeral.check literal = .ok ()) :
    ∃ c rest phase, literal = c :: rest ∧ Numeral.Phase.start? c = some phase ∧
      Numeral.checkFrom phase rest = .ok () := by
  cases literal with
  | nil => cases h
  | cons c rest =>
    simp only [Numeral.check] at h
    split at h
    · next phase hphase => exact ⟨c, rest, phase, rfl, hphase, h⟩
    · cases h

/-- What a sign or a digit is not. -/
theorem ne_of_start? {c : Char} {phase : Numeral.Phase}
    (h : Numeral.Phase.start? c = some phase) :
    isSpace c = false ∧ c ≠ ']' ∧ c ≠ '"' ∧ c ≠ '[' ∧ c ≠ '{' ∧ c ≠ 'n' ∧ c ≠ 't' ∧ c ≠ 'f' := by
  refine ⟨?_, ?_, ?_, ?_, ?_, ?_, ?_, ?_⟩
  · cases hspace : isSpace c with
    | false => rfl
    | true =>
      simp only [isSpace, Bool.or_eq_true, decide_eq_true_eq] at hspace
      rcases hspace with ((rfl | rfl) | rfl) | rfl <;> cases h
  all_goals
    rintro rfl
    cases h

/-- The text of a value starts with a character that is neither white space nor a closing bracket.
-/
theorem exists_cons_of_spells {text : List Char} {value : Outline} (h : Spells text value) :
    ∃ c rest, text = c :: rest ∧ isSpace c = false ∧ c ≠ ']' := by
  cases h with
  | null => exact ⟨'n', _, rfl, by decide, by decide⟩
  | true => exact ⟨'t', _, rfl, by decide, by decide⟩
  | false => exact ⟨'f', _, rfl, by decide, by decide⟩
  | number valid =>
    obtain ⟨c, rest, phase, rfl, hphase, -⟩ := exists_start_of_check valid
    have hc := ne_of_start? hphase
    exact ⟨c, rest, rfl, hc.1, hc.2.1⟩
  | string => exact ⟨'"', _, rfl, by decide, by decide⟩
  | emptyArray | array => exact ⟨'[', _, rfl, by decide, by decide⟩
  | emptyObject | object => exact ⟨'{', _, rfl, by decide, by decide⟩

/-- A first item is read as any value is. -/
theorem step_firstItem (frames : List Frame) (blank : Bool) {c : Char} (hspace : isSpace c = false)
    (hc : c ≠ ']') : step (.between frames (.firstItem blank)) c =
      step (.between (.item blank [] :: frames) .value) c := by
  simp [step, stepIdle, stepBetween, hspace, hc]

/-- A number is scanned into its literal. -/
theorem holds_run_number (frames : List Frame) {literal : List Char}
    (h : Numeral.check literal = .ok ()) :
    Holds frames (.number literal) (run (.between frames .value) literal) := by
  obtain ⟨c, rest, phase, rfl, hphase, hrest⟩ := exists_start_of_check h
  obtain ⟨hspace, -, hquote, harray, hobject, hnull, htrue, hfalse⟩ := ne_of_start? hphase
  obtain ⟨last, hlast, hrun⟩ := run_numeral frames phase [c] rest hrest
  have hstart : step (.between frames .value) c = .numeral frames phase [c] := by
    simp only [step, stepIdle, stepBetween, hspace, Bool.false_eq_true, if_false]
    unfold startValue
    split
    any_goals contradiction
    rw [hphase]
  rw [run_cons, hstart, hrun]
  have hliteral : c :: rest = (rest.reverse ++ [c]).reverse := by simp
  rw [hliteral]
  exact .numeral (rest.reverse ++ [c]) hlast

/-- Behind the opening bracket and white space, a first item is read inside the open array. -/
theorem run_first (frames : List Frame) {space first : List Char} {item : Outline}
    (hspace : Space space) (h : Spells first item) :
    run (.between frames .value) ('[' :: (space ++ first)) =
      run (.between (.item (!space.isEmpty) [] :: frames) .value) first := by
  obtain ⟨c, rest, rfl, hc, hbracket⟩ := exists_cons_of_spells h
  rw [run_cons, run_append]
  show run (run (.between frames (.firstItem false)) space) (c :: rest) = _
  rw [run_space_firstItem frames false hspace, Bool.false_or, run_cons, run_cons,
    step_firstItem frames _ hc hbracket]

mutual

/-- **Scanning a value.** The text of a value is scanned into what it spells, inside any containers.
-/
theorem holds_run (frames : List Frame) {text : List Char} {value : Outline} :
    Spells text value → Holds frames value (run (.between frames .value) text)
  | .null => .complete .null
  | .true => .complete (.bool true)
  | .false => .complete (.bool false)
  | .number valid => holds_run_number frames valid
  | @Spells.string spelling valid => by
    rw [run_text frames .value valid rfl]
    exact .complete (.string spelling)
  | @Spells.emptyArray space blank => by
    rw [run_cons, run_append]
    show Holds frames _ (run (run (.between frames (.firstItem false)) space) [']'])
    rw [run_space_firstItem frames false blank, Bool.false_or]
    exact .complete (.array (!space.isEmpty) [] .closed)
  | @Spells.array space first rest _ _ blank head tail => by
    have hhead := holds_run (.item (!space.isEmpty) [] :: frames) head
    have hsplit : '[' :: (space ++ (first ++ rest)) = ('[' :: (space ++ first)) ++ rest := by simp
    rw [hsplit, run_append, run_first frames blank head, run_items frames _ [] tail hhead]
    exact .complete _
  | @Spells.emptyObject space blank => by
    rw [run_cons, run_append]
    show Holds frames _ (run (run (.between frames .firstName) space) ['}'])
    rw [run_space frames (by simp) blank]
    exact .complete (.object [] .closed)
  | @Spells.object space first rest member _ blank head tail => by
    have hfirst : step (.between frames .firstName) '"' = .text frames (.name []) [] .plain := rfl
    have hhead := holds_run_member frames [] head hfirst
    rw [run_cons, run_append, run_append]
    show Holds frames _ (run (run (run (.between frames .firstName) space) first) rest)
    rw [run_space frames (by simp) blank, run_members frames [] member tail hhead]
    exact .complete _

/-- Items behind an item are scanned, and the array is closed. -/
theorem run_items (frames : List Frame) (blank : Bool) (before : List Outline) {text : List Char}
    {items : List Outline} :
    SpellsItems text items → ∀ {item : Outline} {state : State},
      Holds (.item blank before :: frames) item state →
      run state text = complete frames (.array blank (before.reverse ++ item :: items) .closed)
  | .close hspace, item, state, hitem => by
    have hdone : (item :: before).reverse = before.reverse ++ [item] := List.reverse_cons
    rw [run_append, run_cons, run_nil, (hitem.run_space hspace).step_eq (by decide)]
    show complete frames (.array blank (item :: before).reverse .closed) = _
    rw [hdone]
  | @SpellsItems.next _ after first _ _ _ hbefore hafter head tail, item, state, hitem => by
    -- The comma takes up the item before it, and the next item is scanned behind the comma.
    have htail := holds_run (.item blank (item :: before) :: frames) head
    have hdone : (item :: before).reverse = before.reverse ++ [item] := List.reverse_cons
    rw [run_append, run_cons, (hitem.run_space hbefore).step_eq (by decide), run_append, run_append]
    show run (run (run (.between (.item blank (item :: before) :: frames) .value) after) first) _ =
      _
    rw [run_space _ (by simp) hafter, run_items frames blank (item :: before) tail htail, hdone,
      List.append_assoc]
    rfl

/-- A member is scanned where a name may stand. -/
theorem holds_run_member (frames : List Frame) (before : List Member) {text : List Char}
    {member : Member} :
    SpellsMember text member → ∀ {state : State},
      step state '"' = .text frames (.name before) [] .plain →
      Holds (.member before member.1 :: frames) member.2 (run state text)
  | @SpellsMember.member front after text name _ valid hfront hafter hcontent, state, hstate => by
    have hvalue := holds_run (.member before name :: frames) hcontent
    rw [run_append, run_text frames (.name before) valid hstate, run_append]
    show Holds _ _ (run (run (.between frames (.colon before name)) front) (':' :: (after ++ text)))
    rw [run_space frames (by simp) hfront, run_cons, run_append]
    show Holds _ _ (run (run (.between (.member before name :: frames) .value) after) text)
    rw [run_space _ (by simp) hafter]
    exact hvalue

/-- Members behind a member are scanned, and the object is closed. -/
theorem run_members (frames : List Frame) (before : List Member) (member : Member)
    {text : List Char} {members : List Member} :
    SpellsMembers text members → ∀ {state : State},
      Holds (.member before member.1 :: frames) member.2 state →
      run state text =
        complete frames (.object (before.reverse ++ member :: members) .closed)
  | .close hspace, state, hmember => by
    have hdone : (member :: before).reverse = before.reverse ++ [member] := List.reverse_cons
    rw [run_append, run_cons, run_nil, (hmember.run_space hspace).step_eq (by decide)]
    show complete frames (.object (member :: before).reverse .closed) = _
    rw [hdone]
  | @SpellsMembers.next _ after first _ next _ hbefore hafter head tail, state, hmember => by
    have hnext : step (.between frames (.nextName (member :: before))) '"' =
        .text frames (.name (member :: before)) [] .plain := rfl
    have hhead := holds_run_member frames (member :: before) head hnext
    have hdone : (member :: before).reverse = before.reverse ++ [member] := List.reverse_cons
    rw [run_append, run_cons, (hmember.run_space hbefore).step_eq (by decide), run_append,
      run_append]
    show run (run (run (.between frames (.nextName (member :: before))) after) first) _ = _
    rw [run_space frames (by simp) hafter, run_members frames (member :: before) next tail hhead,
      hdone, List.append_assoc]
    rfl

end

/-- **The whole text.** A text is scanned into what it spells, and nothing is left. -/
theorem scan_of_isText {text : List Char} {root : Outline} (h : IsText text root) :
    scan text = ⟨root, false⟩ := by
  obtain @⟨before, value, after, _, hbefore, hafter, hvalue⟩ := h
  rw [scan, run_append, run_append, start, run_space [] (by simp) hbefore]
  exact ((holds_run [] hvalue).run_space hafter).finish_eq

end Scanner

end TxGateway.Json
