import TxGateway.Text.Printable
import TxGateway.Digits
/-!
# Quoted text in messages

How a message shows a text or a character that may hold anything: between quotation marks, with a
short escape for the usual control characters and a code point in braces for all that would not
show.
-/

namespace TxGateway.Text

/-- A code point written in braces. -/
def codePoint (c : Char) : List Char :=
  "\\u\x7b".toList ++ Digits.hex c.toNat ++ ['\x7d']

/-- A character as it stands between quotation marks of the kind `mark`: the other mark needs no
escape. -/
def quoteChar (mark c : Char) : List Char :=
  if c = mark then ['\\', mark]
  else match c with
    | '\x00' => ['\\', '0']
    | '\t' => ['\\', 't']
    | '\n' => ['\\', 'n']
    | '\r' => ['\\', 'r']
    | '\\' => ['\\', '\\']
    | _ => if isPrintable c && !extendsGrapheme c then [c] else codePoint c

/-- A text in double quotation marks. -/
def quoted (text : String) : String :=
  String.ofList ('"' :: text.toList.flatMap (quoteChar '"') ++ ['"'])

/-- A character in single quotation marks. -/
def quotedChar (c : Char) : String :=
  String.ofList ('\'' :: quoteChar '\'' c ++ ['\''])

end TxGateway.Text
