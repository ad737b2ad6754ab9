import TxGateway.Proofs.Json.Strict
/-!
# What the scanner has read

The grammar says which texts spell a value; here the scanner is shown to accept no others. `Scanned`
says for each state of the scanner what the text so far must look like: which containers it opens,
which items and members it has completed in them, and which part of a token it ends in.

* `Scanned.step`, `Scanned.run` : every character keeps this, and so does every text;
* `skip_enclose` : a value in which the text stops cannot be passed over;
* `outlines_iff_isText` : so the texts that are well formed throughout are those of the grammar.
-/

namespace TxGateway.Json

open Fallible

namespace Scanner

/-! ## Open containers -/

/-- The text behind the opening bracket of an array, up to where a further item may stand. Items
stand latest first. -/
inductive ItemsBefore : List Char → Bool → List Outline → Prop
  | none {space : List Char} (blank : Space space) : ItemsBefore space (!space.isEmpty) []
  | snoc {before text after gap : List Char} {blank : Bool} {items : List Outline} {item : Outline}
      (earlier : ItemsBefore before blank items) (content : Spells text item)
      (blankBefore : Space after) (blankAfter : Space gap) :
      ItemsBefore (before ++ (text ++ (after ++ ',' :: gap))) blank (item :: items)

/-- The text behind the opening brace of an object, up to where a name may stand. Members stand
latest first. -/
inductive MembersBefore : List Char → List Member → Prop
  | none {space : List Char} (blank : Space space) : MembersBefore space []
  | snoc {before text after gap : List Char} {members : List Member} {member : Member}
      (earlier : MembersBefore before members) (content : SpellsMember text member)
      (blankBefore : Space after) (blankAfter : Space gap) :
      MembersBefore (before ++ (text ++ (after ++ ',' :: gap))) (member :: members)

/-- A text that ends where a value may stand inside the open containers. What precedes a value in
the place of a name does not count. -/
inductive Opens : List Char → List Frame → Prop
  | root {space : List Char} (blank : Space space) : Opens space []
  | item {outer text : List Char} {frames : List Frame} {blank : Bool} {items : List Outline}
      (around : Opens outer frames) (earlier : ItemsBefore text blank items) :
      Opens (outer ++ '[' :: text) (.item blank items :: frames)
  | member {outer text before after : List Char} {frames : List Frame} {members : List Member}
      {name : Spelling} (around : Opens outer frames) (earlier : MembersBefore text members)
      (valid : name.WellFormed) (blankBefore : Space before) (blankAfter : Space after) :
      Opens (outer ++ '{' :: (text ++ (name.text ++ (before ++ ':' :: after))))
        (.member members name :: frames)
  | misnamed (text : List Char) (frames : List Frame) : Opens text (.misnamed :: frames)

/-- A text that ends where a string may stand: a value, or the name of a member. -/
inductive Awaits : List Char → List Frame → Role → Prop
  | value {text : List Char} {frames : List Frame} (around : Opens text frames) :
      Awaits text frames .value
  | name {outer text : List Char} {frames : List Frame} {members : List Member}
      (around : Opens outer frames) (earlier : MembersBefore text members) :
      Awaits (outer ++ '{' :: text) frames (.name members)

/-- Items behind those before complete an array. -/
theorem ItemsBefore.spells {before : List Char} {blank : Bool} {items : List Outline}
    (h : ItemsBefore before blank items) {text rest : List Char} {item : Outline}
    {others : List Outline} (hitem : Spells text item) (hothers : SpellsItems rest others) :
    Spells ('[' :: (before ++ (text ++ rest)))
      (.array blank (items.reverse ++ item :: others) .closed) := by
  -- The last item before becomes the one that the others stand behind.
  induction h generalizing text rest item others with
  | none blank => exact .array blank hitem hothers
  | snoc _ content blankBefore blankAfter ih =>
    have hlonger := ih content (.next blankBefore blankAfter hitem hothers)
    simpa only [List.reverse_cons, List.append_assoc, List.cons_append, List.nil_append]
      using hlonger

/-- Members behind those before complete an object. -/
theorem MembersBefore.spells {before : List Char} {members : List Member}
    (h : MembersBefore before members) {text rest : List Char} {member : Member}
    {others : List Member} (hmember : SpellsMember text member)
    (hothers : SpellsMembers rest others) :
    Spells ('{' :: (before ++ (text ++ rest)))
      (.object (members.reverse ++ member :: others) .closed) := by
  induction h generalizing text rest member others with
  | none blank => exact .object blank hmember hothers
  | snoc _ content blankBefore blankAfter ih =>
    have hlonger := ih content (.next blankBefore blankAfter hmember hothers)
    simpa only [List.reverse_cons, List.append_assoc, List.cons_append, List.nil_append]
      using hlonger

/-- White space may be longer. -/
theorem space_snoc {space : List Char} (h : Space space) {c : Char} (hc : isSpace c = true) :
    Space (space ++ [c]) := by
  intro d hd
  rcases List.mem_append.mp hd with hd | hd
  · exact h d hd
  · rwa [List.mem_singleton.mp hd]

/-- White space may follow the last comma, and before the first item it is kept in mind. -/
theorem ItemsBefore.space {text : List Char} {blank : Bool} {items : List Outline}
    (h : ItemsBefore text blank items) {c : Char} (hc : isSpace c = true) :
    ItemsBefore (text ++ [c]) (blank || items.isEmpty) items := by
  cases h with
  | none space =>
    have hlonger := ItemsBefore.none (space_snoc space hc)
    have hblank : (!(text ++ [c]).isEmpty) = true := by simp
    rwa [hblank, ← Bool.or_true (!text.isEmpty)] at hlonger
  | snoc earlier content blankBefore blankAfter =>
    have hlonger := ItemsBefore.snoc earlier content blankBefore (space_snoc blankAfter hc)
    simpa only [List.isEmpty_cons, Bool.or_false, List.append_assoc, List.cons_append] using hlonger

/-- White space may follow the last comma. -/
theorem MembersBefore.space {text : List Char} {members : List Member}
    (h : MembersBefore text members) {c : Char} (hc : isSpace c = true) :
    MembersBefore (text ++ [c]) members := by
  cases h with
  | none space => exact .none (space_snoc space hc)
  | snoc earlier content blankBefore blankAfter =>
    have hlonger := MembersBefore.snoc earlier content blankBefore (space_snoc blankAfter hc)
    simpa only [List.append_assoc, List.cons_append] using hlonger

/-- White space may precede a value. -/
theorem Opens.space {text : List Char} {frames : List Frame} (h : Opens text frames)
    (hbegun : ∀ blank outer, frames ≠ .item blank [] :: outer) {c : Char}
    (hc : isSpace c = true) : Opens (text ++ [c]) frames := by
  cases h with
  | root space => exact .root (space_snoc space hc)
  | @item _ _ _ blank items around earlier =>
    cases items with
    | nil => exact absurd rfl (hbegun blank _)
    | cons item items =>
      have hlonger := Opens.item around (earlier.space hc)
      simpa only [List.isEmpty_cons, Bool.or_false, List.append_assoc, List.cons_append]
        using hlonger
  | member around earlier valid blankBefore blankAfter =>
    have hlonger := Opens.member around earlier valid blankBefore (space_snoc blankAfter hc)
    simpa only [List.append_assoc, List.cons_append] using hlonger
  | misnamed text frames => exact .misnamed _ frames

/-- White space may precede a name. -/
theorem Awaits.space {text : List Char} {frames : List Frame} {members : List Member}
    (h : Awaits text frames (.name members)) {c : Char} (hc : isSpace c = true) :
    Awaits (text ++ [c]) frames (.name members) := by
  cases h with
  | name around earlier =>
    have hlonger := Awaits.name around (earlier.space hc)
    simpa only [List.append_assoc, List.cons_append] using hlonger

/-! ## Values in which the text stops -/

/-- What is closed around a value in which the text stops cannot be passed over, and neither can the
value be if it is the root. -/
theorem skip_enclose {fault : Fault} {frames : List Frame} {value : Outline}
    (h : (enclose fault frames value).skip = .ok ()) : frames = [] ∧ value.skip = .ok () := by
  induction frames generalizing value with
  | nil => exact ⟨rfl, h⟩
  | cons frame frames ih =>
    cases frame with
    | item blank before =>
      obtain ⟨⟨⟩, -, hclose⟩ := bind_eq_ok_iff.mp (ih h).2
      cases hclose
    | member before name =>
      obtain ⟨⟨⟩, -, hclose⟩ := bind_eq_ok_iff.mp (ih h).2
      cases hclose
    | misnamed => cases (ih h).2

/-- An array that is cut short cannot be passed over. -/
theorem skip_array_cut_ne {fault : Fault} {blank : Bool} {items : List Outline} :
    (Outline.array blank items (.cut fault)).skip ≠ .ok () := by
  intro h
  obtain ⟨⟨⟩, -, hclose⟩ := bind_eq_ok_iff.mp h
  cases hclose

/-- An object that is not closed cannot be passed over. -/
theorem skip_object_ne {members : List Member} {ending : Ending} (hending : ending ≠ .closed) :
    (Outline.object members ending).skip ≠ .ok () := by
  intro h
  obtain ⟨⟨⟩, -, hclose⟩ := bind_eq_ok_iff.mp h
  cases ending with
  | closed => exact hending rfl
  | cut | cutAfterComma => cases hclose

/-- A string in which the text stops cannot be passed over, nor can what is around it. -/
theorem skip_cutText_ne {frames : List Frame} {role : Role} {pieces : List Piece} {fault : Fault} :
    (cutText frames role pieces fault).skip ≠ .ok () := by
  intro h
  cases role with
  | value => cases (skip_enclose h).2
  | name members => exact skip_object_ne (by simp) (skip_enclose h).2

/-- A text that ends between two tokens stops in its value. -/
theorem skip_endBetween_ne {frames : List Frame} {place : Place} :
    (endBetween frames place).skip ≠ .ok () := by
  intro h
  cases place with
  | value => cases (skip_enclose h).2
  | firstItem | afterItem => exact skip_array_cut_ne (skip_enclose h).2
  | firstName | nextName | afterMember => exact skip_object_ne (by simp) (skip_enclose h).2
  | colon => cases (skip_enclose h).1

/-! ## What each state knows -/

/-- A text that has been read between two tokens, or behind its value, or up to a fault. -/
inductive Settled : List Char → State → Prop
  | value {text : List Char} {frames : List Frame} (around : Opens text frames)
      (begun : ∀ blank outer, frames ≠ .item blank [] :: outer) :
      Settled text (.between frames .value)
  | firstItem {text : List Char} {frames : List Frame} {blank : Bool}
      (around : Opens text (.item blank [] :: frames)) :
      Settled text (.between frames (.firstItem blank))
  | afterItem {outer before text after : List Char} {frames : List Frame} {blank : Bool}
      {items : List Outline} {item : Outline} (around : Opens outer frames)
      (earlier : ItemsBefore before blank items) (content : Spells text item)
      (space : Space after) :
      Settled (outer ++ '[' :: (before ++ (text ++ after)))
        (.between frames (.afterItem blank (item :: items)))
  | firstName {text : List Char} {frames : List Frame} (around : Awaits text frames (.name [])) :
      Settled text (.between frames .firstName)
  | nextName {text : List Char} {frames : List Frame} {members : List Member}
      (around : Awaits text frames (.name members)) :
      Settled text (.between frames (.nextName members))
  | colon {text after : List Char} {frames : List Frame} {members : List Member} {name : Spelling}
      (around : Awaits text frames (.name members)) (valid : name.WellFormed)
      (space : Space after) :
      Settled (text ++ (name.text ++ after)) (.between frames (.colon members name))
  | afterMember {outer before text after : List Char} {frames : List Frame}
      {members : List Member} {member : Member} (around : Opens outer frames)
      (earlier : MembersBefore before members) (content : SpellsMember text member)
      (space : Space after) :
      Settled (outer ++ '{' :: (before ++ (text ++ after)))
        (.between frames (.afterMember (member :: members)))
  | done {text : List Char} {root : Outline} (content : IsText text root) : Settled text (.done root)
  | trailing (text : List Char) (root : Outline) : Settled text (.trailing root)
  | stopped (text : List Char) {root : Outline} (fault : root.skip ≠ .ok ()) :
      Settled text (.stopped root)

/-- What has been read of an escape. -/
def Within.text : Within → List Char
  | .plain => []
  | .escape => ['\\']
  | .unit digits => '\\' :: 'u' :: digits.reverse

/-- A text that has been read, perhaps up to the middle of a token. -/
inductive Scanned : List Char → State → Prop
  | settled {text : List Char} {state : State} (rest : Settled text state) : Scanned text state
  | word {outer text rest : List Char} {frames : List Frame} {value : Outline}
      (around : Opens outer frames) (content : Spells (text ++ rest) value) :
      Scanned (outer ++ text) (.word frames rest value)
  | numeral {outer literal : List Char} {frames : List Frame} {phase : Numeral.Phase}
      (around : Opens outer frames)
      (content : ∀ rest, Numeral.checkFrom phase rest = .ok () →
        Numeral.check (literal.reverse ++ rest) = .ok ()) :
      Scanned (outer ++ literal.reverse) (.numeral frames phase literal)
  | text {outer : List Char} {frames : List Frame} {role : Role} {pieces : List Piece}
      {within : Within} (around : Awaits outer frames role)
      (content : ∀ piece ∈ pieces, piece.WellFormed) :
      Scanned (outer ++ '"' :: (pieces.reverse.flatMap Piece.text ++ within.text))
        (.text frames role pieces within)

variable {text : List Char} {frames : List Frame}

/-! ## Values that begin and end -/

/-- A fault where a value should be cannot be passed over. -/
theorem settled_breakOff (text : List Char) (frames : List Frame) (fault : Fault) :
    Settled text (breakOff frames fault) := by
  refine .stopped text fun h => ?_
  cases (skip_enclose h).2

/-- A value that is complete is taken up by what is around it. -/
theorem settled_complete {outer : List Char} {value : Outline} (h : Opens outer frames)
    (hvalue : Spells text value) : Settled (outer ++ text) (complete frames value) := by
  cases h with
  | root blank =>
    have htext := IsText.text blank space_nil hvalue
    rw [List.append_nil] at htext
    exact .done htext
  | item around earlier =>
    have hafter := Settled.afterItem around earlier hvalue space_nil
    simpa only [complete, List.append_nil, List.append_assoc, List.cons_append] using hafter
  | member around earlier valid blankBefore blankAfter =>
    have hafter :=
      Settled.afterMember around earlier (.member valid blankBefore blankAfter hvalue) space_nil
    simpa only [complete, List.append_nil, List.append_assoc, List.cons_append] using hafter
  | misnamed =>
    refine .stopped _ fun hskip => ?_
    cases (skip_enclose hskip).2

/-- A string that is complete is taken up as its role says. -/
theorem settled_completeText {outer : List Char} {role : Role} {spelling : Spelling}
    (h : Awaits outer frames role) (hspelling : spelling.WellFormed) :
    Settled (outer ++ spelling.text) (completeText frames role spelling) := by
  cases h with
  | value around => exact settled_complete around (.string hspelling)
  | name around earlier =>
    have hcolon := Settled.colon (.name around earlier) hspelling space_nil
    rwa [List.append_nil] at hcolon

/-- The first character of a literal begins one. -/
theorem check_of_start? {c : Char} {phase : Numeral.Phase}
    (h : Numeral.Phase.start? c = some phase) (rest : List Char)
    (hrest : Numeral.checkFrom phase rest = .ok ()) : Numeral.check (c :: rest) = .ok () := by
  simp only [Numeral.check, h]
  exact hrest

/-- A value is begun by its first character. -/
theorem scanned_startValue (h : Opens text frames) (c : Char) :
    Scanned (text ++ [c]) (startValue frames c) := by
  unfold startValue
  split
  · exact @Scanned.text text frames .value [] .plain (.value h) fun _ hpiece => by cases hpiece
  · exact .settled (.firstItem (.item h (.none space_nil)))
  · exact .settled (.firstName (.name h (.none space_nil)))
  · exact .word h .null
  · exact .word h .true
  · exact .word h .false
  · split
    · next phase hphase => exact @Scanned.numeral text [c] frames phase h (check_of_start? hphase)
    · exact .settled (settled_breakOff _ _ _)

/-! ## One character -/

/-- White space between two tokens changes nothing. -/
theorem Settled.space {place : Place} (h : Settled text (.between frames place)) {c : Char}
    (hc : isSpace c = true) : Settled (text ++ [c]) (stepBetween frames place c) := by
  simp only [stepBetween, hc, if_true]
  cases h with
  | value around begun => exact .value (around.space begun hc) begun
  | firstItem around =>
    cases around with
    | item around earlier =>
      have hlonger := Settled.firstItem (.item around (earlier.space hc))
      simpa only [List.isEmpty_nil, Bool.or_true, List.append_assoc, List.cons_append] using hlonger
  | afterItem around earlier content space =>
    have hlonger := Settled.afterItem around earlier content (space_snoc space hc)
    simpa only [List.append_assoc, List.cons_append] using hlonger
  | firstName around => exact .firstName (around.space hc)
  | nextName around => exact .nextName (around.space hc)
  | colon around valid space =>
    have hlonger := Settled.colon around valid (space_snoc space hc)
    simpa only [List.append_assoc, List.cons_append] using hlonger
  | afterMember around earlier content space =>
    have hlonger := Settled.afterMember around earlier content (space_snoc space hc)
    simpa only [List.append_assoc, List.cons_append] using hlonger

/-- Behind the opening bracket of an array stands its end or its first item. -/
theorem scanned_firstItem {blank : Bool} (h : Opens text (.item blank [] :: frames)) {c : Char}
    (hc : isSpace c = false) :
    Scanned (text ++ [c]) (stepBetween frames (.firstItem blank) c) := by
  simp only [stepBetween, hc, Bool.false_eq_true, if_false]
  split
  · next hbracket =>
    rw [hbracket]
    cases h with
    | item around earlier =>
      cases earlier with
      | none space =>
        have hdone := settled_complete around (.emptyArray space)
        exact .settled (by simpa only [List.append_assoc, List.cons_append] using hdone)
  · exact scanned_startValue h c

/-- Behind an item stands the end of its array, or a comma. -/
theorem scanned_afterItem {outer before after : List Char} {blank : Bool} {items : List Outline}
    {item : Outline} (around : Opens outer frames) (earlier : ItemsBefore before blank items)
    (content : Spells text item) (space : Space after) {c : Char} (hc : isSpace c = false) :
    Scanned (outer ++ '[' :: (before ++ (text ++ after)) ++ [c])
      (stepBetween frames (.afterItem blank (item :: items)) c) := by
  simp only [stepBetween, hc, Bool.false_eq_true, if_false]
  split
  · next hbracket =>
    have hdone := settled_complete around (earlier.spells content (.close space))
    rw [hbracket, List.reverse_cons]
    exact .settled (by simpa only [List.append_assoc, List.cons_append] using hdone)
  · split
    · next hcomma =>
      have hnext := Opens.item around (.snoc earlier content space space_nil)
      rw [hcomma]
      refine .settled (.value ?_ (by simp))
      simpa only [List.append_assoc, List.cons_append] using hnext
    · exact .settled (.stopped _ fun h => skip_array_cut_ne (skip_enclose h).2)

/-- A quotation mark opens a string. -/
theorem scanned_quote {role : Role} (h : Awaits text frames role) :
    Scanned (text ++ ['"']) (.text frames role [] .plain) :=
  @Scanned.text text frames role [] .plain h fun _ hpiece => by cases hpiece

/-- Behind the opening brace of an object stands its end or its first name. -/
theorem scanned_firstName (h : Awaits text frames (.name [])) {c : Char}
    (hc : isSpace c = false) : Scanned (text ++ [c]) (stepBetween frames .firstName c) := by
  simp only [stepBetween, hc, Bool.false_eq_true, if_false]
  split
  · next hquote =>
    rw [hquote]
    exact scanned_quote h
  · split
    · next hbrace =>
      rw [hbrace]
      cases h with
      | name around earlier =>
        cases earlier with
        | none space =>
          have hdone := settled_complete around (.emptyObject space)
          exact .settled (by simpa only [List.append_assoc, List.cons_append] using hdone)
    · exact scanned_startValue (.misnamed _ _) c

/-- Behind the comma in an object stands a name. -/
theorem scanned_nextName {members : List Member} (h : Awaits text frames (.name members)) {c : Char}
    (hc : isSpace c = false) : Scanned (text ++ [c]) (stepBetween frames (.nextName members) c) := by
  simp only [stepBetween, hc, Bool.false_eq_true, if_false]
  split
  · next hquote =>
    rw [hquote]
    exact scanned_quote h
  · exact .settled (.stopped _ fun h => skip_object_ne (by simp) (skip_enclose h).2)

/-- Behind a name stands a colon. -/
theorem scanned_colon {after : List Char} {members : List Member} {name : Spelling}
    (h : Awaits text frames (.name members)) (valid : name.WellFormed) (space : Space after)
    {c : Char} (hc : isSpace c = false) :
    Scanned (text ++ (name.text ++ after) ++ [c])
      (stepBetween frames (.colon members name) c) := by
  simp only [stepBetween, hc, Bool.false_eq_true, if_false]
  split
  · next hcolon =>
    rw [hcolon]
    cases h with
    | name around earlier =>
      have hnext := Opens.member around earlier valid space space_nil
      refine .settled (.value ?_ (by simp))
      simpa only [List.append_assoc, List.cons_append] using hnext
  · exact .settled (settled_breakOff _ _ _)

/-- Behind a member stands the end of its object, or a comma. -/
theorem scanned_afterMember {outer before after : List Char} {members : List Member}
    {member : Member} (around : Opens outer frames) (earlier : MembersBefore before members)
    (content : SpellsMember text member) (space : Space after) {c : Char}
    (hc : isSpace c = false) :
    Scanned (outer ++ '{' :: (before ++ (text ++ after)) ++ [c])
      (stepBetween frames (.afterMember (member :: members)) c) := by
  simp only [stepBetween, hc, Bool.false_eq_true, if_false]
  split
  · next hbrace =>
    have hdone := settled_complete around (earlier.spells content (.close space))
    rw [hbrace, List.reverse_cons]
    exact .settled (by simpa only [List.append_assoc, List.cons_append] using hdone)
  · split
    · next hcomma =>
      have hnext := Awaits.name around (.snoc earlier content space space_nil)
      rw [hcomma]
      refine .settled (.nextName ?_)
      simpa only [List.append_assoc, List.cons_append] using hnext
    · exact .settled (.stopped _ fun h => skip_object_ne (by simp) (skip_enclose h).2)

/-- A character between two tokens begins a token, or it is one, or it is a fault. -/
theorem Settled.stepBetween {place : Place} (h : Settled text (.between frames place)) (c : Char) :
    Scanned (text ++ [c]) (stepBetween frames place c) := by
  cases hc : isSpace c with
  | true => exact .settled (h.space hc)
  | false =>
    cases h with
    | value around =>
      simp only [Scanner.stepBetween, hc, Bool.false_eq_true, if_false]
      exact scanned_startValue around c
    | firstItem around => exact scanned_firstItem around hc
    | afterItem around earlier content space =>
      exact scanned_afterItem around earlier content space hc
    | firstName around => exact scanned_firstName around hc
    | nextName around => exact scanned_nextName around hc
    | colon around valid space => exact scanned_colon around valid space hc
    | afterMember around earlier content space =>
      exact scanned_afterMember around earlier content space hc

/-- A character where no token is unfinished. -/
theorem Settled.stepIdle {state : State} (h : Settled text state) (c : Char) :
    Scanned (text ++ [c]) (stepIdle state c) := by
  cases state with
  | between frames place => exact h.stepBetween c
  | word | numeral | text => cases h
  | done root =>
    cases h with
    | done content =>
      cases hc : isSpace c with
      | true =>
        simp only [Scanner.stepIdle, hc, if_true]
        obtain ⟨blankBefore, blankAfter, hvalue⟩ := content
        have hlonger := IsText.text blankBefore (space_snoc blankAfter hc) hvalue
        exact .settled (.done (by simpa only [List.append_assoc] using hlonger))
      | false =>
        simp only [Scanner.stepIdle, hc, Bool.false_eq_true, if_false]
        exact .settled (.trailing _ root)
  | trailing root => exact .settled (.trailing _ root)
  | stopped root =>
    cases h with
    | stopped _ fault => exact .settled (.stopped _ fault)

/-- A character of a word is the one that is expected, or a fault. -/
theorem scanned_word {outer rest : List Char} {value : Outline} (h : Opens outer frames)
    (hvalue : Spells (text ++ rest) value) (c : Char) :
    Scanned (outer ++ text ++ [c]) (step (.word frames rest value) c) := by
  match rest with
  | [] =>
    rw [List.append_nil] at hvalue
    exact (settled_complete h hvalue).stepIdle c
  | [last] =>
    simp only [step]
    split
    · next hlast =>
      rw [hlast, List.append_assoc]
      exact .settled (settled_complete h hvalue)
    · exact .settled (settled_breakOff _ _ _)
  | next :: other :: rest =>
    simp only [step]
    split
    · next hnext =>
      have hlonger : Spells ((text ++ [next]) ++ (other :: rest)) value := by
        rwa [List.append_assoc]
      rw [hnext, List.append_assoc]
      exact .word h hlonger
    · exact .settled (settled_breakOff _ _ _)

/-- A literal is complete where it may end. -/
theorem isComplete_of_step {phase : Numeral.Phase} {c : Char} (h : phase.step c = .complete) :
    phase.isComplete = true := by
  cases phase with
  | zero | whole | fraction | exponentDigits => rfl
  | sign | point | exponent | exponentSign =>
    simp only [Numeral.Phase.step] at h
    split_ifs at h

/-- A literal that may end where it stands is valid. -/
theorem check_of_isComplete {phase : Numeral.Phase} {literal : List Char}
    (h : ∀ rest, Numeral.checkFrom phase rest = .ok () →
      Numeral.check (literal ++ rest) = .ok ()) (hcomplete : phase.isComplete = true) :
    Numeral.check literal = .ok () := by
  have hnil := h [] (by simp [Numeral.checkFrom, hcomplete])
  rwa [List.append_nil] at hnil

/-- A character behind a numeral belongs to it, or stands behind it, or is a fault. -/
theorem scanned_numeral {outer literal : List Char} {phase : Numeral.Phase} (h : Opens outer frames)
    (hliteral : ∀ rest, Numeral.checkFrom phase rest = .ok () →
      Numeral.check (literal.reverse ++ rest) = .ok ()) (c : Char) :
    Scanned (outer ++ literal.reverse ++ [c]) (step (.numeral frames phase literal) c) := by
  simp only [step]
  split
  · next next hstep =>
    -- What completes the longer literal, with the character before it completes the shorter one.
    rw [List.append_assoc, ← List.reverse_cons]
    refine .numeral h fun rest hrest => ?_
    have hlonger : Numeral.checkFrom phase (c :: rest) = .ok () := by
      simp only [Numeral.checkFrom, hstep]
      exact hrest
    rw [List.reverse_cons, List.append_assoc]
    exact hliteral (c :: rest) hlonger
  · next hstep =>
    have hvalid := check_of_isComplete hliteral (isComplete_of_step hstep)
    exact (settled_complete h (.number hvalid)).stepIdle c
  · exact .settled (settled_breakOff _ _ _)

/-- A string goes on with a further piece. -/
theorem scanned_piece (piece : Piece) {outer : List Char} {role : Role} {pieces : List Piece}
    (h : Awaits outer frames role) (hpieces : ∀ piece ∈ pieces, piece.WellFormed)
    (hpiece : piece.WellFormed) :
    Scanned (outer ++ '"' :: (pieces.reverse.flatMap Piece.text ++ piece.text))
      (.text frames role (piece :: pieces) .plain) := by
  have hlonger := @Scanned.text outer frames role (piece :: pieces) .plain h
    (List.forall_mem_cons.mpr ⟨hpiece, hpieces⟩)
  simpa [Within.text] using hlonger

/-- A character of a string ends it, or belongs to a piece of it, or is a fault. -/
theorem scanned_text {outer : List Char} {role : Role} {pieces : List Piece} (within : Within)
    (h : Awaits outer frames role) (hpieces : ∀ piece ∈ pieces, piece.WellFormed) (c : Char) :
    Scanned (outer ++ '"' :: (pieces.reverse.flatMap Piece.text ++ within.text) ++ [c])
      (stepText frames role pieces within c) := by
  rw [List.append_assoc, List.cons_append, List.append_assoc]
  cases within with
  | plain =>
    simp only [stepText, Within.text, List.nil_append]
    split
    · next hquote =>
      have hvalid : (⟨pieces.reverse, none⟩ : Spelling).WellFormed :=
        ⟨rfl, fun piece hpiece => hpieces piece (List.mem_reverse.mp hpiece)⟩
      rw [hquote]
      exact .settled (settled_completeText h hvalid)
    · next hquote =>
      split
      · next hslash =>
        rw [hslash]
        exact @Scanned.text outer frames role pieces .escape h hpieces
      · next hslash =>
        split
        · exact .settled (.stopped _ skip_cutText_ne)
        · next hcontrol => exact scanned_piece (.plain c) h hpieces ⟨hquote, hslash, hcontrol⟩
  | escape =>
    simp only [stepText]
    split
    · next hunit =>
      rw [hunit]
      exact @Scanned.text outer frames role pieces (.unit []) h hpieces
    · split
      · next hescape => exact scanned_piece (.escaped c) h hpieces hescape
      · exact .settled (.stopped _ skip_cutText_ne)
  | unit digits =>
    have htext : Within.text (.unit digits) ++ [c] = Within.text (.unit (c :: digits)) := by
      simp [Within.text]
    rw [htext]
    simp only [stepText]
    split
    · exact .text h hpieces
    · split
      · next hdigits =>
        have hpiece : (Piece.unit (c :: digits).reverse).WellFormed := by
          refine ⟨?_, ?_⟩
          · rw [List.length_reverse]
            exact hdigits.1
          · rw [List.all_reverse]
            exact hdigits.2
        exact scanned_piece (.unit (c :: digits).reverse) h hpieces hpiece
      · exact .settled (.stopped _ skip_cutText_ne)

/-- **One character.** What the scanner knows of a text it knows of the text with a further
character. -/
theorem Scanned.step {state : State} (h : Scanned text state) (c : Char) :
    Scanned (text ++ [c]) (step state c) := by
  cases h with
  | settled rest =>
    -- Only once the state is known does `step` come to `stepIdle`.
    have hstep := rest.stepIdle c
    cases rest with
    | value | firstItem | afterItem | firstName | nextName | colon | afterMember | done | trailing
    | stopped => exact hstep
  | word around content => exact scanned_word around content c
  | numeral around content => exact scanned_numeral around content c
  | text around content => exact scanned_text _ around content c

/-! ## Whole texts -/

/-- What the scanner knows after all characters of a text. -/
theorem Scanned.run {state : State} (h : Scanned text state) (more : List Char) :
    Scanned (text ++ more) (run state more) := by
  induction more generalizing text state with
  | nil => rwa [List.append_nil]
  | cons c more ih =>
    have hrest := ih (h.step c)
    rwa [List.append_assoc] at hrest

/-- Where no token is unfinished, a text that can be passed over is one of the grammar. -/
theorem Settled.isText {state : State} (h : Settled text state) {root : Outline}
    (hfinish : finishIdle state = ⟨root, false⟩) (hskip : root.skip = .ok ()) :
    IsText text root := by
  cases state with
  | between frames place =>
    cases hfinish
    exact absurd hskip skip_endBetween_ne
  | word | numeral | text => cases h
  | done =>
    cases hfinish
    cases h with
    | done content => exact content
  | trailing => cases hfinish
  | stopped =>
    cases hfinish
    cases h with
    | stopped _ fault => exact absurd hskip fault

/-- A text that can be passed over is one of the grammar. -/
theorem Scanned.isText {state : State} (h : Scanned text state) {root : Outline}
    (hfinish : finish state = ⟨root, false⟩) (hskip : root.skip = .ok ()) : IsText text root := by
  cases h with
  | settled rest =>
    have hidle : finishIdle state = ⟨root, false⟩ := by
      cases rest <;> exact hfinish
    exact rest.isText hidle hskip
  | word around =>
    cases hfinish
    cases (skip_enclose hskip).2
  | @numeral _ _ _ phase around content =>
    simp only [finish] at hfinish
    split at hfinish
    · next hcomplete =>
      have hvalid := check_of_isComplete content hcomplete
      exact (settled_complete around (.number hvalid)).isText hfinish hskip
    · cases hfinish
      cases (skip_enclose hskip).2
  | text =>
    cases hfinish
    exact absurd hskip skip_cutText_ne

/-- Before the first character nothing has been read. -/
theorem scanned_start : Scanned [] start := .settled (.value (.root space_nil) (by simp))

end Scanner

/-- **The grammar of the scanner.** The texts that are well formed throughout are those that the
grammar allows, and they spell the same in both. -/
theorem outlines_iff_isText {text : String} {root : Outline} :
    Outlines text root ↔ IsText text.toList root := by
  constructor
  · intro h
    exact (Scanner.scanned_start.run text.toList).isText h.scan_eq h.skip_eq
  · exact IsText.outlines

end TxGateway.Json
