import TxGateway.Json.Basic
import TxGateway.Json.Mismatch
import TxGateway.Json.Scanner
/-!
# Readers

A reader makes a value of some type from the outline of a text, and stops at the first trouble in
the order of the text. It is given the number of containers that it may still enter: a text may nest
127 of them, apart from values that are passed over.
-/

namespace TxGateway.Json

/-- A reader of values of a type. -/
abbrev Reader (α : Type) := (depth : Nat) → Outline → Except ReadError α

/-- The number of containers that may be open at once. -/
def maxDepth : Nat := 127

/-- A fault of the text ends the reading. -/
def faulty {α : Type} (result : Except Fault α) : Except ReadError α :=
  result.mapError .fault

namespace Found

/-- How a number that is not wanted is reported. -/
def ofLiteral (literal : List Char) : Found :=
  match Numeral.integer? literal with
  | some word =>
    if Numeral.fitsWord word then .integer (String.ofList literal) else .number
  | none => .number

end Found

/-- What stands at a place where something else is wanted; a broken value is a fault instead. -/
def Outline.found : Outline → Except ReadError Found
  | .null => .ok .null
  | .bool flag => .ok (.bool flag)
  | .number literal => .ok (.ofLiteral literal)
  | .string spelling => (faulty spelling.decode).map .string
  | .array _ _ _ => .ok .array
  | .object _ _ => .ok .object
  | .misnamed _ => .ok .object
  | .broken fault => .error (.fault fault)

namespace Reader

/-- Refuses a value of the wrong type. -/
def reject {α : Type} (wanted : Wanted) (outline : Outline) : Except ReadError α := do
  let found ← outline.found
  throw (.mismatch (.wrongType found wanted))

/-- Reads a string. -/
def text : Reader String := fun _ outline =>
  match outline with
  | .string spelling => faulty spelling.decode
  | outline => reject .text outline

/-- Reads a truth value. -/
def flag : Reader Bool := fun _ outline =>
  match outline with
  | .bool flag => .ok flag
  | outline => reject .flag outline

/-- Reads `null`. -/
def unit : Reader Unit := fun _ outline =>
  match outline with
  | .null => .ok ()
  | outline => reject .unit outline

/-- Reads `null` as nothing, and anything else as `read` does. -/
def optional {α : Type} (read : Reader α) : Reader (Option α) := fun depth outline =>
  match outline with
  | .null => .ok none
  | outline => (read depth outline).map some

@[simp] theorem optional_null {α : Type} (read : Reader α) (depth : Nat) :
    optional read depth .null = .ok none := rfl

/-- Anything but `null` is read as something that is there. -/
theorem optional_of_ne_null {α : Type} (read : Reader α) (depth : Nat) {outline : Outline}
    (h : outline ≠ .null) : optional read depth outline = (read depth outline).map some := by
  cases outline with
  | null => exact absurd rfl h
  | bool | number | string | array | object | misnamed | broken => rfl

/-- Passes over a value. -/
def skip : Reader Unit := fun _ outline => faulty outline.skip

/-- Reads a value and lets a rule of its own judge it. -/
def judged {α β : Type} (read : Reader α) (rule : α → Except Mismatch β) : Reader β :=
  fun depth outline => do
    let value ← read depth outline
    (rule value).mapError .mismatch

end Reader

/-! ## Free-form values -/

/-- The name under which an object with a single member is a numeral. -/
def numeralName : String := "$serde_json::private::Number"

/-- Reads the numeral that is written as an object: its literal stands in a string. -/
def readNumeral (outline : Outline) : Except ReadError Json := do
  match outline with
  | .string spelling =>
    let literal ← faulty spelling.decode
    match Numeral.check literal.toList with
    | .ok () => return .number (String.ofList (Numeral.normal literal.toList))
    | .error fault => throw (.mismatch (.refused fault.message))
  | outline => Reader.reject .numeralText outline

/-- The end of an object that is a numeral: no second member may follow. -/
def closeNumeral (others : List Member) (ending : Ending) : Except ReadError Unit :=
  match others, ending with
  | [], .closed => .ok ()
  | [], .cut fault => .error (.fault fault)
  | _, _ => .error (.fault .trailingComma)

mutual

/-- Reads a value of any shape. Of members with one name the last counts. -/
def Outline.read : Nat → Outline → Except ReadError Json
  | _, .null => .ok .null
  | _, .bool flag => .ok (.bool flag)
  | _, .number literal => .ok (.number (String.ofList (Numeral.normal literal)))
  | _, .string spelling => (faulty spelling.decode).map .string
  | _, .broken fault => .error (.fault fault)
  | 0, _ => .error (.fault .tooDeep)
  | depth + 1, .array _ items ending => do
    let values ← readItems depth items
    faulty ending.close
    return .array values
  | depth + 1, .object members ending => do
    match members with
    | [] =>
      faulty ending.close
      return .object []
    | (name, value) :: others =>
      let first ← faulty name.decode
      if first = numeralName then
        let numeral ← readNumeral value
        closeNumeral others ending
        return numeral
      else
        let head ← value.read depth
        let values ← readMembers depth others [(first, head)]
        faulty ending.close
        return .object values
  | _ + 1, .misnamed _ => .error (.fault .nameExpected)

/-- Reads the items of an array. -/
def readItems : Nat → List Outline → Except ReadError (List Json)
  | _, [] => .ok []
  | depth, item :: items => do
    let value ← item.read depth
    let values ← readItems depth items
    return value :: values

/-- Reads further members of an object into those read before. -/
def readMembers : Nat → List (Spelling × Outline) → List (String × Json) →
    Except ReadError (List (String × Json))
  | _, [], before => .ok before
  | depth, (name, value) :: members, before => do
    let name ← faulty name.decode
    let value ← value.read depth
    readMembers depth members (insert name value before)

end

/-- Reads a value of any shape. -/
def Reader.value : Reader Json := fun depth outline => outline.read depth

/-! ## Names of variants -/

/-- Finds the variant with a given name. -/
def findVariant {α : Type} (variants : List (String × α)) (name : String) : Except ReadError α :=
  match variants.find? fun variant => variant.1 == name with
  | some variant => .ok variant.2
  | none => .error (.mismatch (.unknownVariant name (variants.map Prod.fst)))

/-- The end of an object that names a variant: its one member is all. -/
def closeVariant (others : List Member) (ending : Ending) : Except ReadError Unit :=
  match others, ending with
  | [], .closed => .ok ()
  | [], .cut fault => .error (.fault (if fault.isEnd then fault else .valueExpected))
  | _, _ => .error (.fault .valueExpected)

/-- Reads the name of a variant: a string, or an object whose one member has that name and the value
`null`. Anything else is malformed at its first character. -/
def Reader.variant {α : Type} (variants : List (String × α)) : Reader α := fun depth outline =>
  match depth, outline with
  | _, .string spelling => do
    let name ← faulty spelling.decode
    findVariant variants name
  | 0, .object _ _ => .error (.fault .tooDeep)
  | 0, .misnamed _ => .error (.fault .tooDeep)
  | depth + 1, .object members ending =>
    match members with
    | [] =>
      match ending with
      | .closed => .error (.fault .valueExpected)
      | .cut fault => .error (.fault fault)
      | .cutAfterComma fault => .error (.fault fault)
    | (name, value) :: others => do
      let name ← faulty name.decode
      let variant ← findVariant variants name
      Reader.unit depth value
      closeVariant others ending
      return variant
  | _ + 1, .misnamed name => Reader.reject .variantName name
  | _, .broken .endInValue => .error (.fault .endInValue)
  | _, _ => .error (.fault .valueExpected)

/-! ## Whole texts -/

/-- Reads a whole text: a value, and nothing but white space after it. -/
def Reader.parse {α : Type} (read : Reader α) (text : String) : Except ReadError α := do
  let document := Scanner.scan text.toList
  let value ← read maxDepth document.root
  if document.trailing then throw (.fault .trailingCharacters)
  return value

/-- The value that a JSON text denotes. -/
def parse (text : String) : Except ReadError Json := Reader.value.parse text

end TxGateway.Json
