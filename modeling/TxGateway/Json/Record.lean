import TxGateway.Json.Reader
/-!
# Records

Records with named fields. A record may be given as an object, its members in any order and others
among them, or as an array with the fields in their places. Fields are read in the order of the
text; a field given twice is refused where its name stands the second time, and a field that is
missing once all is read.
-/

namespace TxGateway.Json

/-- Whether a field may be missing. -/
inductive Presence where
  | required
  /-- It may be missing among members, but it has its place in an array. -/
  | nullable
  | optional
deriving DecidableEq, Repr

/-- A field of the record type `ρ`: its name, and how its value changes the record. -/
structure Field (ρ : Type) where
  name : String
  presence : Presence
  read : Reader (ρ → ρ)

/-- A field whose value goes into the record by `put`. -/
def Field.of {ρ α : Type} (name : String) (presence : Presence) (read : Reader α)
    (put : α → ρ → ρ) : Field ρ :=
  ⟨name, presence, fun depth outline => (read depth outline).map put⟩

/-- The fields of a record, in order, and the record before any field is read. -/
structure Layout (ρ : Type) where
  name : String
  fields : List (Field ρ)
  blank : ρ

namespace Layout

variable {ρ : Type}

/-- The field with a given name. -/
def field? (layout : Layout ρ) (name : String) : Option (Field ρ) :=
  layout.fields.find? fun field => field.name == name

/-- Reads members into a record; `seen` holds the names of the fields read so far. -/
def readMembers (layout : Layout ρ) (depth : Nat) :
    List Member → List String → ρ → Except ReadError (List String × ρ)
  | [], seen, record => .ok (seen, record)
  | (name, value) :: members, seen, record => do
    let name ← faulty name.decode
    match layout.field? name with
    | none =>
      faulty value.skip
      readMembers layout depth members seen record
    | some field =>
      if name ∈ seen then throw (.mismatch (.duplicateMember name))
      else
        let change ← field.read depth value
        readMembers layout depth members (name :: seen) (change record)

/-- The first field that must not be missing and is. -/
def missing? (layout : Layout ρ) (seen : List String) : Option (Field ρ) :=
  layout.fields.find? fun field => field.presence == .required && !seen.contains field.name

/-- Reads a record from an object. -/
def readObject (layout : Layout ρ) (depth : Nat) (members : List Member) (ending : Ending) :
    Except ReadError ρ := do
  let (seen, record) ← layout.readMembers depth members [] layout.blank
  faulty ending.close
  match layout.missing? seen with
  | some field => throw (.mismatch (.missingMember field.name))
  | none => return record

/-- Reads items into the fields of a record, place by place; `given` counts the places read. -/
def readPlaces (layout : Layout ρ) (depth : Nat) (ending : Ending) :
    List (Field ρ) → List Outline → (given : Nat) → ρ → Except ReadError ρ
  | [], [], _, record => do
    faulty ending.close
    return record
  | [], _ :: _, _, _ => throw (.fault .trailingCharacters)
  | field :: fields, [], given, record => do
    faulty ending.close
    if field.presence = .optional then
      readPlaces layout depth ending fields [] (given + 1) record
    else throw (.mismatch (.tooFewPlaces given layout.name layout.fields.length))
  | field :: fields, item :: items, given, record => do
    let change ← field.read depth item
    readPlaces layout depth ending fields items (given + 1) (change record)

/-- The reader of a record. -/
def read (layout : Layout ρ) : Reader ρ := fun depth outline =>
  match depth, outline with
  | depth + 1, .object members ending => layout.readObject depth members ending
  | depth + 1, .array _ items ending =>
    layout.readPlaces depth ending layout.fields items 0 layout.blank
  | _ + 1, .misnamed _ => .error (.fault .nameExpected)
  | 0, .object _ _ => .error (.fault .tooDeep)
  | 0, .array _ _ _ => .error (.fault .tooDeep)
  | 0, .misnamed _ => .error (.fault .tooDeep)
  | _, outline => Reader.reject (.record layout.name) outline

end Layout

end TxGateway.Json
