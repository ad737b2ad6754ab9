import TxGateway.Json.Basic
import TxGateway.Digits
/-!
# Printing JSON

The compact text of a value: no white space, members in the order in which the object holds them,
and escapes only for quotation mark, backslash and the control characters.
-/

namespace TxGateway.Json

/-- A character as it stands in a JSON string. -/
def escape (c : Char) : List Char :=
  match c with
  | '"' => ['\\', '"']
  | '\\' => ['\\', '\\']
  | '\x08' => ['\\', 'b']
  | '\x0c' => ['\\', 'f']
  | '\n' => ['\\', 'n']
  | '\r' => ['\\', 'r']
  | '\t' => ['\\', 't']
  | _ =>
    if c.toNat < 0x20 then
      ['\\', 'u', '0', '0', Nat.digitChar (c.toNat / 16), Nat.digitChar (c.toNat % 16)]
    else [c]

/-- A text as a JSON string. -/
def printString (text : String) : List Char :=
  '"' :: text.toList.flatMap escape ++ ['"']

mutual

/-- The compact text of a value. -/
def print : Json → List Char
  | .null => "null".toList
  | .bool true => "true".toList
  | .bool false => "false".toList
  | .number literal => literal.toList
  | .string text => printString text
  | .array [] => ['[', ']']
  | .array (item :: items) => '[' :: (item.print ++ printItems items)
  | .object [] => ['{', '}']
  | .object ((name, value) :: members) =>
    '{' :: (printString name ++ ':' :: (value.print ++ printMembers members))

/-- The items after the first, each behind a comma, and the closing bracket. -/
def printItems : List Json → List Char
  | [] => [']']
  | item :: items => ',' :: (item.print ++ printItems items)

/-- The members after the first, each behind a comma, and the closing brace. -/
def printMembers : List (String × Json) → List Char
  | [] => ['}']
  | (name, value) :: members =>
    ',' :: (printString name ++ ':' :: (value.print ++ printMembers members))

end

/-- The compact text of a value, as a text. -/
def compact (value : Json) : String := String.ofList value.print

end TxGateway.Json
