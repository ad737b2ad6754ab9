/-!
# JSON values

The values that a JSON text denotes. A numeral keeps its literal, so no precision is lost; an object
is the list of its members. `Json.insert` builds objects with their names in order and without
repetition.
-/

namespace TxGateway

/-- A JSON value. -/
inductive Json where
  | null
  | bool (flag : Bool)
  | number (literal : String)
  | string (text : String)
  | array (items : List Json)
  | object (members : List (String × Json))
deriving Repr

namespace Json

/-- The name of the type of a value. -/
def typeName : Json → String
  | null => "null"
  | bool _ => "boolean"
  | number _ => "number"
  | string _ => "string"
  | array _ => "array"
  | object _ => "object"

/-- Whether a value is `null`. -/
def isNull : Json → Bool
  | null => true
  | _ => false

/-- Puts a member into a list that is sorted by name; a member of the same name is replaced. -/
def insert (name : String) (value : Json) : List (String × Json) → List (String × Json)
  | [] => [(name, value)]
  | (other, old) :: members =>
    if name = other then (name, value) :: members
    else if name < other then (name, value) :: (other, old) :: members
    else (other, old) :: insert name value members

/-- The value of the first member with a given name. -/
def find? (name : String) (members : List (String × Json)) : Option Json :=
  (members.find? fun member => member.1 == name).map Prod.snd

@[simp] theorem find?_nil (name : String) : find? name [] = none := rfl

theorem find?_cons (name other : String) (value : Json) (members : List (String × Json)) :
    find? name ((other, value) :: members) =
      if other = name then some value else find? name members := by
  by_cases h : other = name <;> simp [find?, h]

/-- A member that is put in is found under its name. -/
theorem find?_insert_self (name : String) (value : Json) (members : List (String × Json)) :
    find? name (insert name value members) = some value := by
  induction members with
  | nil => simp [insert, find?_cons]
  | cons member members ih =>
    rw [insert]
    split
    · simp [find?_cons]
    · next hne =>
      split
      · simp [find?_cons]
      · rw [find?_cons, if_neg fun h => hne h.symm, ih]

/-- A member that is put in changes nothing under other names. -/
theorem find?_insert_of_ne {name other : String} (h : name ≠ other) (value : Json)
    (members : List (String × Json)) :
    find? other (insert name value members) = find? other members := by
  induction members with
  | nil => simp [insert, find?_cons, h]
  | cons member members ih =>
    rw [insert]
    split
    · next heq => rw [find?_cons, if_neg h, find?_cons, if_neg fun e => h (heq.trans e)]
    · split
      · rw [find?_cons, if_neg h]
      · rw [find?_cons, find?_cons, ih]

/-- A member that may be left out: present with the value, or no member at all. -/
def member? (name : String) (value : Option Json) : List (String × Json) :=
  match value with
  | some value => [(name, value)]
  | none => []

@[simp] theorem member?_none (name : String) : member? name none = [] := rfl

@[simp] theorem member?_some (name : String) (value : Json) :
    member? name (some value) = [(name, value)] := rfl

/-- An optional text: the text, or `null`. -/
def ofText? : Option String → Json
  | some text => string text
  | none => null

end Json

end TxGateway
