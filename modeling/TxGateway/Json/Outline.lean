import TxGateway.Json.Numeral
import TxGateway.Json.Fault
/-!
# Outlines of JSON texts

The outline of a text is the JSON value that it spells, as far as it spells one. Strings keep their
escapes and numerals their literals, an array knows whether white space follows its opening bracket,
and at most one fault, at the end of what was read, marks where the text stops being JSON. What a
reader of the text finds first is what comes first in the outline, so a reader can stop at the first
trouble in the order of the text.
-/

namespace TxGateway.Json

/-- One character of a string, as it is spelled. -/
inductive Piece where
  /-- The character itself. -/
  | plain (c : Char)
  /-- A backslash and a letter or sign. -/
  | escaped (letter : Char)
  /-- A backslash, the letter `u` and four hex digits: one unit of UTF-16. -/
  | unit (digits : List Char)
deriving DecidableEq, Repr

/-- The spelling of a string: its pieces, and the fault that cuts it short, if one does. -/
structure Spelling where
  pieces : List Piece
  fault : Option Fault
deriving DecidableEq, Repr

/-- How a container ends. -/
inductive Ending where
  | closed
  /-- Something other than a comma or the closing bracket follows the last element. -/
  | cut (fault : Fault)
  /-- A comma follows the last member, and no member follows the comma. -/
  | cutAfterComma (fault : Fault)
deriving DecidableEq, Repr

/-- What a JSON text spells, as far as it is well formed. -/
inductive Outline where
  | null
  | bool (flag : Bool)
  | number (literal : List Char)
  | string (spelling : Spelling)
  | array (blank : Bool) (items : List Outline) (ending : Ending)
  | object (members : List (Spelling × Outline)) (ending : Ending)
  /-- An object in which another value stands where the first name should. -/
  | misnamed (name : Outline)
  | broken (fault : Fault)
deriving Repr

/-- A member of an object. -/
abbrev Member := Spelling × Outline

/-- The outline of a whole text, and whether something follows the value. -/
structure Document where
  root : Outline
  trailing : Bool

/-! ## The characters of a string -/

namespace Piece

/-- The character that an escape letter stands for. -/
def unescape (letter : Char) : Char :=
  match letter with
  | 'b' => '\x08'
  | 'f' => '\x0c'
  | 'n' => '\n'
  | 'r' => '\r'
  | 't' => '\t'
  | _ => letter

/-- Whether a character may stand behind a backslash on its own. -/
def isEscape (c : Char) : Bool :=
  c = '"' || c = '\\' || c = '/' || c = 'b' || c = 'f' || c = 'n' || c = 'r' || c = 't'

/-- The piece as it stands in the text. -/
def text : Piece → List Char
  | plain c => [c]
  | escaped letter => ['\\', letter]
  | unit digits => '\\' :: 'u' :: digits

end Piece

namespace Spelling

/-- Whether a unit of UTF-16 is the first of a pair. -/
def isHigh (unit : Nat) : Bool := 0xd800 ≤ unit && unit ≤ 0xdbff

/-- Whether a unit of UTF-16 is the second of a pair. -/
def isLow (unit : Nat) : Bool := 0xdc00 ≤ unit && unit ≤ 0xdfff

/-- The character that a pair of units stands for. -/
def pair (high low : Nat) : Char :=
  Char.ofNat (0x10000 + (high - 0xd800) * 0x400 + (low - 0xdc00))

/-- The fault of a first unit that no second unit follows, given what cuts the string short. -/
def unpaired : Option Fault → Fault
  | some fault => if fault.isEnd then fault else .unpairedSurrogate
  | none => .unpairedSurrogate

/-- The characters that pieces spell. Units must come in pairs where UTF-16 needs two. -/
def characters (fault : Option Fault) : List Piece → Except Fault (List Char)
  | [] =>
    match fault with
    | some fault => .error fault
    | none => .ok []
  | .plain c :: rest => (characters fault rest).map (c :: ·)
  | .escaped letter :: rest => (characters fault rest).map (Piece.unescape letter :: ·)
  | .unit digits :: rest =>
    let unit := Digits.ofDigits 16 digits
    if isLow unit then .error .loneSurrogate
    else if isHigh unit then
      match rest with
      | [] => .error (unpaired fault)
      | .unit second :: rest =>
        let low := Digits.ofDigits 16 second
        if isLow low then (characters fault rest).map (pair unit low :: ·)
        else .error .loneSurrogate
      | _ :: _ => .error .unpairedSurrogate
    else (characters fault rest).map (Char.ofNat unit :: ·)

/-- The text that a spelling denotes. -/
def decode (spelling : Spelling) : Except Fault String :=
  (characters spelling.fault spelling.pieces).map String.ofList

/-- The spelling as it stands in the text, with its quotation marks. -/
def text (spelling : Spelling) : List Char :=
  '"' :: spelling.pieces.flatMap Piece.text ++ ['"']

end Spelling

/-! ## Passing over a value -/

/-- Passes over the end of a container. -/
def Ending.close : Ending → Except Fault Unit
  | closed => .ok ()
  | cut fault => .error fault
  | cutAfterComma fault => .error fault

/-- A fault as it counts in a value that is passed over: a number must not be cut short. -/
def Fault.passedOver : Fault → Fault
  | endInNumber => invalidNumber
  | fault => fault

/-- Passes over a string without looking at its characters. -/
def Spelling.skip (spelling : Spelling) : Except Fault Unit :=
  match spelling.fault with
  | some fault => .error fault
  | none => .ok ()

mutual

/-- Passes over a value of which only the form counts. It may be nested to any depth. -/
def Outline.skip : Outline → Except Fault Unit
  | .null | .bool _ | .number _ => .ok ()
  | .string spelling => spelling.skip
  | .array _ items ending => do
    skipItems items
    ending.close
  | .object members ending => do
    skipMembers members
    ending.close
  | .misnamed _ => .error .nameExpected
  | .broken fault => .error fault.passedOver

/-- Passes over the items of an array. -/
def skipItems : List Outline → Except Fault Unit
  | [] => .ok ()
  | item :: items => do
    item.skip
    skipItems items

/-- Passes over the members of an object. -/
def skipMembers : List (Spelling × Outline) → Except Fault Unit
  | [] => .ok ()
  | (name, value) :: members => do
    name.skip
    value.skip
    skipMembers members

end

end TxGateway.Json
