import TxGateway.Json.Outline
/-!
# Scanning JSON texts

A text is scanned once, character by character, into its outline. The state of the scanner is the
stack of containers that are open around the current place, and what is being read there. A fault
stops the scanner: the open containers are closed around it, and nothing after it counts.
-/

namespace TxGateway.Json.Scanner

/-- A container that is open around the value being read. Elements read so far stand latest first.
-/
inductive Frame where
  | item (blank : Bool) (before : List Outline)
  | member (before : List Member) (name : Spelling)
  /-- An object in which a value stands where the first name should. -/
  | misnamed
deriving Repr

/-- A place between two tokens. -/
inductive Place where
  /-- Where a value must start. -/
  | value
  | firstItem (blank : Bool)
  | afterItem (blank : Bool) (items : List Outline)
  | firstName
  | nextName (members : List Member)
  | colon (members : List Member) (name : Spelling)
  | afterMember (members : List Member)
deriving Repr

/-- What a string is read for: a value, or the name of the member after those read so far. -/
inductive Role where
  | value
  | name (members : List Member)
deriving Repr

/-- A place inside a string. -/
inductive Within where
  | plain
  /-- Behind a backslash. -/
  | escape
  /-- Behind a backslash and `u`, with the characters read since, latest first. -/
  | unit (digits : List Char)
deriving Repr

/-- What the scanner knows of the text so far. -/
inductive State where
  | between (frames : List Frame) (place : Place)
  | word (frames : List Frame) (rest : List Char) (value : Outline)
  | numeral (frames : List Frame) (phase : Numeral.Phase) (literal : List Char)
  | text (frames : List Frame) (role : Role) (pieces : List Piece) (within : Within)
  | done (root : Outline)
  | trailing (root : Outline)
  | stopped (root : Outline)
deriving Repr

/-- The white space between JSON tokens. -/
def isSpace (c : Char) : Bool := c = ' ' || c = '\n' || c = '\t' || c = '\r'

/-! ## Values that end and faults -/

/-- Closes the open containers around a value in which the text stops. -/
def enclose (fault : Fault) : List Frame → Outline → Outline
  | [], value => value
  | .item blank before :: frames, value =>
    enclose fault frames (.array blank (before.reverse ++ [value]) (.cut fault))
  | .member before name :: frames, value =>
    enclose fault frames (.object (before.reverse ++ [(name, value)]) (.cut fault))
  | .misnamed :: frames, value => enclose fault frames (.misnamed value)

/-- Stops at a fault where a value should be. -/
def breakOff (frames : List Frame) (fault : Fault) : State :=
  .stopped (enclose fault frames (.broken fault))

/-- Takes up a value that is complete. -/
def complete : List Frame → Outline → State
  | [], value => .done value
  | .item blank before :: frames, value => .between frames (.afterItem blank (value :: before))
  | .member before name :: frames, value => .between frames (.afterMember ((name, value) :: before))
  | .misnamed :: frames, value => .stopped (enclose .nameExpected frames (.misnamed value))

/-- Takes up a string that is complete. -/
def completeText (frames : List Frame) (role : Role) (spelling : Spelling) : State :=
  match role with
  | .value => complete frames (.string spelling)
  | .name members => .between frames (.colon members spelling)

/-- The outline of a string in which the text stops. -/
def cutText (frames : List Frame) (role : Role) (pieces : List Piece) (fault : Fault) : Outline :=
  let spelling : Spelling := ⟨pieces.reverse, some fault⟩
  match role with
  | .value => enclose fault frames (.string spelling)
  | .name members =>
    enclose fault frames (.object (members.reverse ++ [(spelling, .broken fault)]) (.cut fault))

/-! ## One character -/

/-- Reads the first character of a value. -/
def startValue (frames : List Frame) (c : Char) : State :=
  match c with
  | '"' => .text frames .value [] .plain
  | '[' => .between frames (.firstItem false)
  | '{' => .between frames .firstName
  | 'n' => .word frames ['u', 'l', 'l'] .null
  | 't' => .word frames ['r', 'u', 'e'] (.bool true)
  | 'f' => .word frames ['a', 'l', 's', 'e'] (.bool false)
  | _ =>
    match Numeral.Phase.start? c with
    | some phase => .numeral frames phase [c]
    | none => breakOff frames .valueExpected

/-- Reads a character between tokens. -/
def stepBetween (frames : List Frame) (place : Place) (c : Char) : State :=
  if isSpace c then
    match place with
    | .firstItem _ => .between frames (.firstItem true)
    | place => .between frames place
  else match place with
    | .value => startValue frames c
    | .firstItem blank =>
      if c = ']' then complete frames (.array blank [] .closed)
      else startValue (.item blank [] :: frames) c
    | .afterItem blank items =>
      if c = ']' then complete frames (.array blank items.reverse .closed)
      else if c = ',' then .between (.item blank items :: frames) .value
      else .stopped (enclose .itemEndExpected frames
        (.array blank items.reverse (.cut .itemEndExpected)))
    | .firstName =>
      if c = '"' then .text frames (.name []) [] .plain
      else if c = '}' then complete frames (.object [] .closed)
      else startValue (.misnamed :: frames) c
    | .nextName members =>
      if c = '"' then .text frames (.name members) [] .plain
      else
        let fault : Fault := if c = '}' then .trailingComma else .nameExpected
        .stopped (enclose fault frames (.object members.reverse (.cutAfterComma fault)))
    | .colon members name =>
      if c = ':' then .between (.member members name :: frames) .value
      else breakOff (.member members name :: frames) .colonExpected
    | .afterMember members =>
      if c = '}' then complete frames (.object members.reverse .closed)
      else if c = ',' then .between frames (.nextName members)
      else .stopped (enclose .memberEndExpected frames
        (.object members.reverse (.cut .memberEndExpected)))

/-- Reads a character where no token is unfinished. -/
def stepIdle (state : State) (c : Char) : State :=
  match state with
  | .between frames place => stepBetween frames place c
  | .done root => if isSpace c then .done root else .trailing root
  | state => state

/-- The number of bytes that characters take. -/
def byteCount (text : List Char) : Nat := text.foldr (fun c bytes => c.utf8Size + bytes) 0

/-- Reads a character of a string. An escape of a unit takes four bytes and is judged as a whole. -/
def stepText (frames : List Frame) (role : Role) (pieces : List Piece) (within : Within)
    (c : Char) : State :=
  match within with
  | .plain =>
    if c = '"' then completeText frames role ⟨pieces.reverse, none⟩
    else if c = '\\' then .text frames role pieces .escape
    else if c.toNat < 0x20 then .stopped (cutText frames role pieces .controlCharacter)
    else .text frames role (.plain c :: pieces) .plain
  | .escape =>
    if c = 'u' then .text frames role pieces (.unit [])
    else if Piece.isEscape c then .text frames role (.escaped c :: pieces) .plain
    else .stopped (cutText frames role pieces .invalidEscape)
  | .unit digits =>
    let digits := c :: digits
    if byteCount digits < 4 then .text frames role pieces (.unit digits)
    else if digits.length = 4 ∧ digits.all (Digits.isDigit 16) then
      .text frames role (.unit digits.reverse :: pieces) .plain
    else .stopped (cutText frames role pieces .invalidEscape)

/-- Reads one character. -/
def step (state : State) (c : Char) : State :=
  match state with
  | .word frames rest value =>
    match rest with
    | [] => stepIdle (complete frames value) c
    | [last] => if c = last then complete frames value else breakOff frames .wordExpected
    | next :: rest =>
      if c = next then .word frames rest value else breakOff frames .wordExpected
  | .numeral frames phase literal =>
    match phase.step c with
    | .next phase => .numeral frames phase (c :: literal)
    | .complete => stepIdle (complete frames (.number literal.reverse)) c
    | .refused => breakOff frames .invalidNumber
  | .text frames role pieces within => stepText frames role pieces within c
  | state => stepIdle state c

/-! ## A whole text -/

/-- The outline of a text that ends between two tokens. -/
def endBetween (frames : List Frame) (place : Place) : Outline :=
  match place with
  | .value => enclose .endInValue frames (.broken .endInValue)
  | .firstItem blank => enclose .endInArray frames (.array blank [] (.cut .endInArray))
  | .afterItem blank items =>
    enclose .endInArray frames (.array blank items.reverse (.cut .endInArray))
  | .firstName => enclose .endInObject frames (.object [] (.cut .endInObject))
  | .nextName members =>
    enclose .endInValue frames (.object members.reverse (.cutAfterComma .endInValue))
  | .colon members name =>
    enclose .endInObject (.member members name :: frames) (.broken .endInObject)
  | .afterMember members =>
    enclose .endInObject frames (.object members.reverse (.cut .endInObject))

/-- The end of a text where no token is unfinished. -/
def finishIdle : State → Document
  | .between frames place => ⟨endBetween frames place, false⟩
  | .word frames _ _ => ⟨enclose .endInWord frames (.broken .endInWord), false⟩
  | .numeral frames _ _ => ⟨enclose .endInNumber frames (.broken .endInNumber), false⟩
  | .text frames role pieces _ => ⟨cutText frames role pieces .endInString, false⟩
  | .done root => ⟨root, false⟩
  | .trailing root => ⟨root, true⟩
  | .stopped root => ⟨root, false⟩

/-- The end of a text. A numeral may end with the text. -/
def finish (state : State) : Document :=
  match state with
  | .numeral frames phase literal =>
    if phase.isComplete then finishIdle (complete frames (.number literal.reverse))
    else finishIdle (.numeral frames phase literal)
  | state => finishIdle state

/-- The state before the first character. -/
def start : State := .between [] .value

/-- Reads all characters of a text. -/
def run (state : State) (text : List Char) : State := text.foldl step state

/-- The outline of a text. -/
def scan (text : List Char) : Document := finish (run start text)

@[simp] theorem run_nil (state : State) : run state [] = state := rfl

@[simp] theorem run_cons (state : State) (c : Char) (text : List Char) :
    run state (c :: text) = run (step state c) text := rfl

/-- Texts are scanned one after the other. -/
theorem run_append (state : State) (first second : List Char) :
    run state (first ++ second) = run (run state first) second := by
  simp [run, List.foldl_append]

end TxGateway.Json.Scanner
